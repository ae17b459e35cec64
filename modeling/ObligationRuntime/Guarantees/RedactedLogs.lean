/-
  ObligationRuntime.Guarantees.RedactedLogs — whether redacting a log record is redacting
  its message.

  The filter rewrites the template and the string arguments one by one, before they are put
  together.  So the characters of the message are covered by their parts: those of the
  template where a secret was found in the template, those that a conversion writes where
  one was found in its argument.  The log is redacted when no secret of the message is read
  in the characters left.  It need not be: a name can come from one part and the secret
  from another.  And a secret of the template can have swallowed a conversion, and then the
  arguments are too many; of a mapping only the keys are left.

  Main results:
    * `Parts.format` — the filtered parts write what is seen of the covered ones,
    * `filtered_message` — so does the filtered record,
    * `log_redaction_iff` — where the log is redacted,
    * `Miscounted.not_redacted`, `filter_leaks` — two ways to fail,
    * `log_redaction_fails` — a password in a template, and one in an argument.
-/
import ObligationRuntime.Gateway.LogRedaction

namespace ObligationRuntime

open Py MarkedText PercentFormat

namespace Gateway

/-! ## §1. The property. -/

section

variable {α : Type} (R : Renderer α) (isAlnum : Char → Bool)

/-- **The log is redacted**: if the record formats, the filtered one does, and its message
has none of the secrets that `redact_secrets` removes from the message. -/
def LogRedacted (record : LogRecord α) : Prop :=
  ∀ message, record.getMessage R = some message →
    ∃ logged, (record.filter isAlnum).getMessage R = some logged ∧
      ∀ secret ∈ secretValues isAlnum message, ¬ secret <:+: logged

/-! ## §2. The parts of a record. -/

/-- The marks of `record.msg`; nothing of an object is replaced. -/
def Template.marks : Template → Marked
  | .text cs => secretMarks isAlnum cs
  | .object cs => cs.map fun c => (c, .kept)

/-- A part of a template: a character, or a conversion, with its mark. -/
inductive Block where
  | lit (c : Char) (m : Mark)
  | conv (c : Conv) (m : Mark)

/-- The marks of a part. -/
def Block.marked : Block → Marked
  | .lit c m => [(c, m)]
  | .conv c m => pieceMarks m ('%' :: c.text)

/-- What counts of a text that may be padded or quoted. -/
def ink (cs : List Char) : List Char := cs.filter fun c => decide (c ∉ [' ', '\x27', '\x22'])

/-- Both spell the same, up to where a precision cuts one of them off. -/
def Spells (written text : List Char) : Prop :=
  ink written <+: ink text ∨ ink text <+: ink written

/-- The parts, formatted, with the covers that each has by itself.  A character of the
template is covered by the template.  A conversion that takes no argument may be covered by
it as a whole; of another one, the template leaves all.  That one's text is covered as its
arguments are: what it writes for the redacted ones is what is then seen of it. -/
inductive Parts : List Block → List (Value α) → Covered → Prop
  | nil : Parts [] [] []
  | lit {c : Char} {m : Mark} {bs : List Block} {vs : List (Value α)} {cover : Covered}
      (text : c ≠ '%') (rest : Parts bs vs cover) :
      Parts (.lit c m :: bs) vs (Marked.cover 3 [(c, m)] ++ cover)
  | whole {c : Conv} {m : Mark} {bs : List Block} {vs : List (Value α)} {cover : Covered}
      {written : List Char} (scans : c.Scans) (matched : m ≠ .kept) (takes : c.arity = 0)
      (writes : R.convert c [] = some written) (some_text : written ≠ [])
      (rest : Parts bs vs cover) :
      Parts (.conv c m :: bs) vs (Marked.cover 3 (pieceMarks m written) ++ cover)
  | conv {c : Conv} {bs : List Block} {vs ws : List (Value α)} {part cover : Covered}
      {written : List Char} (scans : c.Scans) (keyless : c.key = none)
      (takes : vs.length = c.arity) (writes : R.convert c vs = some written)
      (spells : Spells written (part.map Prod.fst))
      (covers : R.convert c (vs.map (redactValue isAlnum)) = some (shown '*' part))
      (rest : Parts bs ws cover) : Parts (.conv c .kept :: bs) (vs ++ ws) (part ++ cover)

/-- The arguments that the filter leaves, before they are redacted: of a mapping its keys. -/
def LogArgs.left : LogArgs α → List (Value α)
  | .tuple vs => vs
  | .mapping _ items => items.map Prod.fst

/-- The parts of a record: its template alone where there are no arguments, else those of a
template of which no secret begins or ends within a conversion, and none takes in one that
has an argument.  A mapping counts as the tuple of its keys. -/
def RecordParts (record : LogRecord α) (cover : Covered) : Prop :=
  match record.args.left with
  | [] => cover = Marked.cover 3 (record.msg.marks isAlnum)
  | v :: vs =>
      ∃ bs, bs.flatMap Block.marked = record.msg.marks isAlnum ∧
        Parts R isAlnum bs (v :: vs) cover

/-- **The covers hide the secrets** of a message: none is read in the characters left.  One
that has an asterisk is read with the asterisks of the covers, too. -/
def Hides (message : List Char) (cover : Covered) : Prop :=
  ∀ secret ∈ secretValues isAlnum message,
    if '*' ∈ secret then ¬ secret <:+: shown '*' cover else ¬ Uncovered secret cover

instance (message : List Char) (cover : Covered) : Decidable (Hides isAlnum message cover) :=
  inferInstanceAs (Decidable (∀ secret ∈ secretValues isAlnum message,
    if '*' ∈ secret then ¬ secret <:+: shown '*' cover else ¬ Uncovered secret cover))

/-- **A clean record**: its parts cover the secrets of its message. -/
def Clean (record : LogRecord α) : Prop :=
  ∃ cover, RecordParts R isAlnum record cover ∧
    ∀ message, record.getMessage R = some message → Hides isAlnum message cover

/-- **A miscounted record**: it formats, and then its filtered template cannot be read, takes
more or fewer arguments than are left, or has a key. -/
def Miscounted (record : LogRecord α) : Prop :=
  record.getMessage R ≠ none ∧ record.args.left ≠ [] ∧
    ∀ ps, pieces 0 (record.msg.filter isAlnum).shown = some ps →
      totalArity ps ≠ record.args.left.length ∨ ∃ c, .conv c ∈ ps ∧ c.key.isSome = true

end

/-! ## §3. The filtered template. -/

section

variable {α : Type} {R : Renderer α} {isAlnum : Char → Bool}

/-- The mask. -/
def mask : List Char := ['*', '*', '*']

/-- What stands in the filtered template for a part with a mark. -/
def maskedPieces (piece : Piece) : Mark → List Piece
  | .kept => [piece]
  | .first => mask.map .lit
  | .more => []

/-- The pieces that the filtered template has of a part. -/
def Block.left : Block → List Piece
  | .lit c m => maskedPieces (.lit c) m
  | .conv c m => maskedPieces (.conv c) m

/-- A part that can be read back: no character of it is a `%`, and its conversion scans. -/
def Block.Readable : Block → Prop
  | .lit c _ => c ≠ '%'
  | .conv c _ => c.Scans

/-- The filter erases what its marks say. -/
theorem shown_filter (template : Template) :
    (template.filter isAlnum).shown = erase mask (template.marks isAlnum) := by
  cases template with
  | text cs => rfl
  | object cs => exact (erase_map_kept cs).symm

/-- The marks are on the template. -/
theorem shown_marks (isAlnum : Char → Bool) (template : Template) :
    (template.marks isAlnum).map Prod.fst = template.shown := by
  cases template with
  | text cs => exact marks_text (secretMatch isAlnum) cs
  | object cs => exact pieceMarks_text .kept cs

/-- The mask is three characters of a template. -/
theorem pieces_mask (cs : List Char) :
    pieces 0 (mask ++ cs) = (pieces 0 cs).map (mask.map Piece.lit ++ ·) := by
  rw [mask, List.cons_append, pieces_lit (by decide), List.cons_append, pieces_lit (by decide),
    List.cons_append, pieces_lit (by decide)]
  simp [Option.map_map, Function.comp_def]

/-- A part of the filtered template is read as what is left of it. -/
theorem pieces_block {b : Block} (h : b.Readable) (cs : List Char) :
    pieces 0 (erase mask b.marked ++ cs) = (pieces 0 cs).map (b.left ++ ·) := by
  cases b with
  | lit c m =>
      cases m with
      | kept => exact pieces_lit h cs
      | first => exact pieces_mask cs
      | more => exact Option.map_id'.symm
  | conv c m =>
      cases m with
      | kept =>
          rw [Block.marked, pieceMarks, erase_map_kept]
          exact pieces_conv h cs
      | first =>
          rw [Block.marked, pieceMarks, erase_partMarks (List.cons_ne_nil _ _)]
          exact pieces_mask cs
      | more =>
          rw [Block.marked, pieceMarks, erase_map_more]
          exact Option.map_id'.symm

/-- **The filtered template** is read as what is left of the parts of the template. -/
theorem pieces_filtered : ∀ {bs : List Block}, (∀ b ∈ bs, b.Readable) →
    pieces 0 (erase mask (bs.flatMap Block.marked)) = some (bs.flatMap Block.left)
  | [], _ => rfl
  | b :: bs, h => by
      have ih := pieces_filtered fun b' hb' => h b' (List.mem_cons_of_mem _ hb')
      rw [List.flatMap_cons, erase_append, pieces_block (h b (List.mem_cons_self ..)), ih]
      rfl

/-- What a part is of the template. -/
def Block.piece : Block → Piece
  | .lit c _ => .lit c
  | .conv c _ => .conv c

/-- The template itself is read as its parts. -/
theorem pieces_template : ∀ {bs : List Block}, (∀ b ∈ bs, b.Readable) →
    pieces 0 ((bs.flatMap Block.marked).map Prod.fst) = some (bs.map Block.piece)
  | [], _ => rfl
  | b :: bs, h => by
      have ih := pieces_template fun b' hb' => h b' (List.mem_cons_of_mem _ hb')
      have hb : b.Readable := h b (List.mem_cons_self ..)
      rw [List.flatMap_cons, List.map_append]
      cases b with
      | lit c m =>
          show pieces 0 (c :: (bs.flatMap Block.marked).map Prod.fst) = _
          rw [pieces_lit hb, ih]
          rfl
      | conv c m =>
          rw [Block.marked, pieceMarks_text]
          show pieces 0 ('%' :: (c.text ++ (bs.flatMap Block.marked).map Prod.fst)) = _
          rw [pieces_conv hb, ih]
          rfl

/-- Every part has its characters in the filtered template, or takes no argument there: it
takes no more than the part itself. -/
theorem Block.totalArity_left (b : Block) : totalArity b.left ≤ totalArity [b.piece] := by
  cases b with
  | lit c m => cases m <;> exact Nat.le_refl _
  | conv c m => cases m <;> first | exact Nat.le_refl _ | exact Nat.zero_le _

theorem Parts.readable {bs : List Block} {vs : List (Value α)} {cover : Covered}
    (h : Parts R isAlnum bs vs cover) : ∀ b ∈ bs, b.Readable := by
  induction h with
  | nil => simp
  | lit text _ ih => simpa [Block.Readable] using ⟨text, ih⟩
  | whole scans _ _ _ _ _ ih => simpa [Block.Readable] using ⟨scans, ih⟩
  | conv scans _ _ _ _ _ _ ih => simpa [Block.Readable] using ⟨scans, ih⟩

/-! ## §4. What the filtered record writes. -/

/-- The mask is written as it is. -/
theorem formatTuple_mask (ps : List Piece) (vs : List (Value α)) :
    formatTuple R (mask.map Piece.lit ++ ps) vs = (formatTuple R ps vs).map (mask ++ ·) := by
  simp only [mask, List.map_cons, List.map_nil, List.cons_append, List.nil_append,
    formatTuple_lit, Option.map_map]
  rfl

/-- A character with its mark is written as what is seen of it. -/
theorem formatTuple_marked (c : Char) (m : Mark) (ps : List Piece) (vs : List (Value α)) :
    formatTuple R (maskedPieces (.lit c) m ++ ps) vs =
      (formatTuple R ps vs).map (shown '*' (Marked.cover 3 [(c, m)]) ++ ·) := by
  cases m with
  | kept => exact formatTuple_lit c ps vs
  | first => exact formatTuple_mask ps vs
  | more => exact Option.map_id'.symm

/-- A conversion that the template covers is written as what is seen of it. -/
theorem formatTuple_whole {c : Conv} {m : Mark} {written : List Char} (hm : m ≠ .kept)
    (hw : written ≠ []) (ps : List Piece) (vs : List (Value α)) :
    formatTuple R (maskedPieces (.conv c) m ++ ps) vs =
      (formatTuple R ps vs).map (shown '*' (Marked.cover 3 (pieceMarks m written)) ++ ·) := by
  rw [shown_cover]
  cases m with
  | kept => exact absurd rfl hm
  | first =>
      rw [pieceMarks, erase_partMarks hw]
      exact formatTuple_mask ps vs
  | more =>
      rw [pieceMarks, erase_map_more]
      exact Option.map_id'.symm

/-- **What is left of the parts** writes, for the redacted arguments, what is seen of the
covered parts. -/
theorem Parts.format {bs : List Block} {vs : List (Value α)} {cover : Covered}
    (h : Parts R isAlnum bs vs cover) :
    formatTuple R (bs.flatMap Block.left) (vs.map (redactValue isAlnum)) =
      some (shown '*' cover) := by
  induction h with
  | nil => rfl
  | lit _ _ ih =>
      rw [List.flatMap_cons, Block.left, formatTuple_marked, ih, shown_append]
      rfl
  | whole _ matched _ _ some_text _ ih =>
      rw [List.flatMap_cons, Block.left, formatTuple_whole matched some_text, ih, shown_append]
      rfl
  | conv _ keyless takes _ _ covers _ ih =>
      rw [List.flatMap_cons, Block.left, maskedPieces, List.map_append, List.singleton_append,
        formatTuple_conv keyless (by rw [List.length_map, takes]) covers, ih, shown_append]
      rfl

/-- Without arguments the filtered template is written. -/
theorem filter_bare {record : LogRecord α} (h : record.args.left = []) :
    (record.filter isAlnum).getMessage R = some (record.msg.filter isAlnum).shown := by
  obtain ⟨template, args⟩ := record
  cases args with
  | tuple vs =>
      obtain rfl : vs = [] := h
      rfl
  | mapping self items =>
      obtain rfl : items = [] := List.map_eq_nil_iff.mp h
      rfl

/-- With some it is formatted, for those that are left. -/
theorem filter_formats {record : LogRecord α} (h : record.args.left ≠ []) :
    (record.filter isAlnum).getMessage R = (pieces 0 (record.msg.filter isAlnum).shown).bind
      fun ps => formatTuple R ps (record.args.left.map (redactValue isAlnum)) := by
  obtain ⟨template, args⟩ := record
  cases args with
  | tuple vs =>
      cases vs with
      | nil => exact absurd rfl h
      | cons v vs => rfl
  | mapping self items =>
      cases items with
      | nil => exact absurd rfl h
      | cons kv items =>
          show _ = (pieces 0 (template.filter isAlnum).shown).bind fun ps =>
            formatTuple R ps (((kv :: items).map Prod.fst).map (redactValue isAlnum))
          rw [List.map_map]
          rfl

/-- **What the filtered record writes**: what is seen of the covered parts. -/
theorem filtered_message {record : LogRecord α} {cover : Covered}
    (h : RecordParts R isAlnum record cover) :
    (record.filter isAlnum).getMessage R = some (shown '*' cover) := by
  unfold RecordParts at h
  cases hleft : record.args.left with
  | nil =>
      rw [hleft] at h
      obtain rfl : cover = Marked.cover 3 (record.msg.marks isAlnum) := h
      rw [filter_bare hleft, shown_filter, shown_cover]
      rfl
  | cons v vs =>
      -- The template is read block by block, each with its own arguments or none.
      rw [hleft] at h
      obtain ⟨bs, hbs, hparts⟩ := h
      rw [filter_formats (by simp [hleft]), shown_filter, ← hbs, pieces_filtered hparts.readable,
        Option.bind_some, hleft, hparts.format]

/-- The plain `%s` of a string is covered where `redact_secrets` replaces. -/
theorem Parts.string (cs : List Char) {bs : List Block} {ws : List (Value α)} {cover : Covered}
    (rest : Parts R isAlnum bs ws cover) :
    Parts R isAlnum (.conv .string .kept :: bs) (.str cs :: ws)
      (Marked.cover 3 (secretMarks isAlnum cs) ++ cover) := by
  have hone : [(.str cs : Value α)].length = Conv.string.arity := rfl
  have htext : (Marked.cover 3 (secretMarks isAlnum cs)).map Prod.fst = cs := by
    rw [Marked.cover, List.map_map]
    refine Eq.trans (List.map_congr_left ?_) (marks_text (secretMatch isAlnum) cs)
    rintro ⟨c, m⟩ -
    cases m <;> rfl
  refine .conv scans_string rfl hone (R.convert_string cs) (.inl ?_) ?_ rest
  · rw [htext]
  · rw [shown_cover]
    exact R.convert_string _

/-! ## §5. Outside. -/

/-- **A miscounted record raises** once it is filtered. -/
theorem filter_raises {record : LogRecord α} (h : Miscounted R isAlnum record) :
    (record.filter isAlnum).getMessage R = none := by
  obtain ⟨-, hleft, hcount⟩ := h
  rw [filter_formats hleft]
  cases hps : pieces 0 (record.msg.filter isAlnum).shown with
  | none => rfl
  | some ps =>
      rw [Option.bind_some]
      rcases hcount ps hps with harity | ⟨c, hc, hkey⟩
      · cases hformat : formatTuple R ps (record.args.left.map (redactValue isAlnum)) with
        | none => rfl
        | some logged =>
            have htaken := formatTuple_arity hformat
            rw [List.length_map] at htaken
            exact absurd htaken harity
      · exact formatTuple_keyed hc hkey

/-- A secret of the template that takes in a conversion with its argument: what is left takes
fewer arguments. -/
theorem totalArity_left_lt {bs : List Block} {c : Conv} {m : Mark} (hmem : .conv c m ∈ bs)
    (harity : 0 < c.arity) (hm : m ≠ .kept) :
    totalArity (bs.flatMap Block.left) < totalArity (bs.map Block.piece) := by
  have hle : ∀ bs : List Block,
      totalArity (bs.flatMap Block.left) ≤ totalArity (bs.map Block.piece) := by
    intro bs
    induction bs with
    | nil => exact Nat.le_refl _
    | cons b bs ih =>
        rw [List.flatMap_cons, totalArity_append, List.map_cons, totalArity_cons]
        exact Nat.add_le_add b.totalArity_left ih
  induction bs with
  | nil => cases hmem
  | cons b bs ih =>
      rw [List.flatMap_cons, totalArity_append, List.map_cons, totalArity_cons]
      rcases List.mem_cons.mp hmem with rfl | hlater
      · refine Nat.add_lt_add_of_lt_of_le ?_ (hle bs)
        cases m with
        | kept => exact absurd rfl hm
        | first => exact Nat.lt_of_lt_of_le harity (Nat.le_refl _)
        | more => exact Nat.lt_of_lt_of_le harity (Nat.le_refl _)
      · exact Nat.add_lt_add_of_le_of_lt b.totalArity_left (ih hlater)

/-- **A swallowed conversion**: a record whose template has a secret that takes in a
conversion with its argument is miscounted. -/
theorem miscounted_of_swallowed {record : LogRecord α} {message : List Char} {v : Value α}
    {vs : List (Value α)} {bs : List Block} {c : Conv} {m : Mark}
    (hm : record.getMessage R = some message) (hargs : record.args = .tuple (v :: vs))
    (hbs : bs.flatMap Block.marked = record.msg.marks isAlnum) (hread : ∀ b ∈ bs, b.Readable)
    (hmem : .conv c m ∈ bs) (harity : 0 < c.arity) (hmark : m ≠ .kept) :
    Miscounted R isAlnum record := by
  refine ⟨by simp [hm], by simp [hargs, LogArgs.left], fun ps hps => .inl ?_⟩
  have hleft : some (bs.flatMap Block.left) = some ps := by
    rw [← pieces_filtered hread, hbs, ← shown_filter, hps]
  have hpieces : pieces 0 record.msg.shown = some (bs.map Block.piece) := by
    rw [← shown_marks isAlnum, ← hbs, pieces_template hread]
  -- The template itself takes all of the arguments.
  have hall : totalArity (bs.map Block.piece) = (v :: vs).length := by
    rw [LogRecord.getMessage, hargs] at hm
    simp only [hpieces, Option.bind_some] at hm
    exact formatTuple_arity hm
  obtain rfl := Option.some.inj hleft
  have hlt := totalArity_left_lt hmem harity hmark
  rw [hargs]
  show totalArity (bs.flatMap Block.left) ≠ (v :: vs).length
  omega

/-- So it is not redacted. -/
theorem Miscounted.not_redacted {record : LogRecord α} (h : Miscounted R isAlnum record) :
    ¬ LogRedacted R isAlnum record := by
  intro hredacted
  obtain ⟨message, hm⟩ := Option.ne_none_iff_exists'.mp h.1
  obtain ⟨logged, hlogged, -⟩ := hredacted message hm
  rw [filter_raises h] at hlogged
  cases hlogged

/-- A secret is a piece of the message. -/
theorem secret_occurs {message secret : List Char} (h : secret ∈ secretValues isAlnum message) :
    secret <:+: message := by
  obtain ⟨r, hr, rfl⟩ := List.mem_map.mp h
  have hrun := runs_infix hr
  rw [secretMarks, marks_text] at hrun
  exact (List.dropWhile_suffix _).isInfix.trans hrun

/-- **A record that leaks**: the filter finds nothing in its parts, and the message has a
secret. -/
theorem filter_leaks {record : LogRecord α} {message secret : List Char}
    (hm : record.getMessage R = some message) (hsame : record.filter isAlnum = record)
    (hsecret : secret ∈ secretValues isAlnum message) :
    ¬ LogRedacted R isAlnum record := by
  intro hredacted
  obtain ⟨logged, hlogged, hnone⟩ := hredacted message hm
  rw [hsame, hm] at hlogged
  obtain rfl := Option.some.inj hlogged
  exact hnone secret hsecret (secret_occurs hsecret)

/-! ## §6. The log. -/

/-- A secret is seen where it is read. -/
theorem hides_iff {message : List Char} {cover : Covered} :
    Hides isAlnum message cover ↔
      ∀ secret ∈ secretValues isAlnum message, ¬ secret <:+: shown '*' cover := by
  refine forall₂_congr fun secret _ => ?_
  split
  · exact Iff.rfl
  next hstar => exact not_congr (infix_shown hstar cover).symm

/-- **Where the log is redacted**: of every clean record; and, of the records that have
parts and of those that are miscounted, of no other one. -/
theorem log_redaction_iff (R : Renderer α) (isAlnum : Char → Bool) (record : LogRecord α) :
    (Clean R isAlnum record → LogRedacted R isAlnum record) ∧
      ((∃ cover, RecordParts R isAlnum record cover) ∨ Miscounted R isAlnum record →
        LogRedacted R isAlnum record → Clean R isAlnum record) := by
  constructor
  · rintro ⟨cover, hparts, hhides⟩ message hm
    exact ⟨_, filtered_message hparts, hides_iff.mp (hhides message hm)⟩
  · rintro (⟨cover, hparts⟩ | hmiscounted) hredacted
    · refine ⟨cover, hparts, fun message hm => hides_iff.mpr ?_⟩
      obtain ⟨logged, hlogged, hnone⟩ := hredacted message hm
      obtain rfl := Option.some.inj ((filtered_message hparts).symm.trans hlogged)
      exact hnone
    · exact absurd hredacted hmiscounted.not_redacted

end

namespace Scripted

/-- Strings, written by `%s`. -/
def strings : Renderer Unit where
  convert c vs :=
    match vs with
    | [] => if c = .percent then some ['%'] else none
    | [.str cs] => if c = .string then some cs else none
    | _ => none
  convert_string _ := rfl
  convert_percent := rfl

/-- A record with strings for its arguments. -/
def logged (template : String) (args : List String) : LogRecord Unit where
  msg := .text template.toList
  args := .tuple (args.map fun a => .str a.toList)

/-- A record with a secret in its template, and one in its argument. -/
def request : LogRecord Unit := logged "got '%s', token=abc" ["password=hunter2, retry"]

/-- Its template before the argument. -/
def requestStart : Marked := "got '".toList.map (·, .kept)

/-- Its template after the argument, with a secret. -/
def requestEnd : Marked :=
  "', token=".toList.map (·, .kept) ++ [('a', .first), ('b', .more), ('c', .more)]

/-- Characters of a template, each with its mark. -/
def lits (ms : Marked) : List Block := ms.map fun m => .lit m.1 m.2

theorem parts_lits {ms : Marked} {cover : Covered} {bs : List Block} {vs : List (Value Unit)}
    (htext : ∀ m ∈ ms, m.1 ≠ '%') (rest : Parts strings Char.isAlphanum bs vs cover) :
    Parts strings Char.isAlphanum (lits ms ++ bs) vs (Marked.cover 3 ms ++ cover) := by
  induction ms with
  | nil => exact rest
  | cons m ms ih =>
      exact .lit (htext m (List.mem_cons_self ..))
        (ih fun n hn => htext n (List.mem_cons_of_mem _ hn))

/-- The parts of that record. -/
theorem request_parts : RecordParts strings Char.isAlphanum request
    (Marked.cover 3 requestStart ++
      (Marked.cover 3 (secretMarks Char.isAlphanum "password=hunter2, retry".toList) ++
        (Marked.cover 3 requestEnd ++ []))) :=
  ⟨lits requestStart ++ .conv .string .kept :: (lits requestEnd ++ []), by decide,
    parts_lits (by decide) (.string _ (parts_lits (by decide) .nil))⟩

/-- A record whose argument has a secret that its message has not. -/
def joined : LogRecord Unit := logged "x%s" ["password=hunter2"]

/-- The parts of that record. -/
theorem joined_parts : RecordParts strings Char.isAlphanum joined
    (Marked.cover 3 [('x', .kept)] ++
      (Marked.cover 3 (secretMarks Char.isAlphanum "password=hunter2".toList) ++ [])) :=
  ⟨lits [('x', .kept)] ++ [.conv .string .kept], by decide,
    parts_lits (by decide) (.string _ .nil)⟩

/-- Both records are redacted, and clean. -/
theorem log_redaction_scripted :
    (LogRedacted strings Char.isAlphanum request ∧
      (request.filter Char.isAlphanum).getMessage strings =
        some "got 'password=***, retry', token=***".toList) ∧
      LogRedacted strings Char.isAlphanum joined ∧ Clean strings Char.isAlphanum joined := by
  have hrequest : LogRedacted strings Char.isAlphanum request := by
    refine (log_redaction_iff strings Char.isAlphanum request).1 ⟨_, request_parts, ?_⟩
    intro message hm
    have hformats : request.getMessage strings =
        some "got 'password=hunter2, retry', token=abc".toList := by decide
    obtain rfl := Option.some.inj (hformats.symm.trans hm)
    decide
  have hjoined : LogRedacted strings Char.isAlphanum joined := by
    refine (log_redaction_iff strings Char.isAlphanum joined).1 ⟨_, joined_parts, ?_⟩
    intro message hm
    have hformats : joined.getMessage strings = some "xpassword=hunter2".toList := by decide
    obtain rfl := Option.some.inj (hformats.symm.trans hm)
    decide
  exact ⟨⟨hrequest, by decide⟩, hjoined,
    (log_redaction_iff strings Char.isAlphanum joined).2 (.inl ⟨_, joined_parts⟩) hjoined⟩

/-- A record whose secret is an argument of its template. -/
def swallowed : LogRecord Unit := logged "password=%s" ["hunter2"]

/-- Its template, with the name of the secret and the conversion. -/
def swallowedBlocks : List Block :=
  lits ("password=".toList.map (·, .kept)) ++ [.conv .string .first]

/-- The conversion is taken in by the secret. -/
theorem swallowed_miscounted : Miscounted strings Char.isAlphanum swallowed := by
  have hformats : swallowed.getMessage strings = some "password=hunter2".toList := by decide
  have hmarks : swallowedBlocks.flatMap Block.marked =
      swallowed.msg.marks Char.isAlphanum := by decide
  have hread : ∀ b ∈ swallowedBlocks, b.Readable := by
    intro b hb
    rcases List.mem_append.mp hb with hlit | hconv
    · obtain ⟨m, hm, rfl⟩ := List.mem_map.mp hlit
      have htext : ∀ m ∈ "password=".toList.map (fun c => (c, Mark.kept)), m.1 ≠ '%' := by decide
      exact htext m hm
    · rw [List.mem_singleton.mp hconv]
      exact scans_string
  have hmem : .conv .string .first ∈ swallowedBlocks :=
    List.mem_append_right _ List.mem_cons_self
  exact miscounted_of_swallowed hformats rfl hmarks hread hmem (by decide) (by decide)

end Scripted

/-- **A password in a template, and one in an argument**: the one takes the conversion with
it, so that the record raises; the other is found in no part, and is logged. -/
theorem log_redaction_fails :
    let swallowed := Scripted.swallowed
    let joined := Scripted.logged "%s=%s" ["password", "hunter2"]
    let message := "password=hunter2".toList
    swallowed.getMessage Scripted.strings = some message ∧
      (swallowed.filter Char.isAlphanum).getMessage Scripted.strings = none ∧
      ¬ LogRedacted Scripted.strings Char.isAlphanum swallowed ∧
      joined.getMessage Scripted.strings = some message ∧
      (joined.filter Char.isAlphanum).getMessage Scripted.strings = some message ∧
      ¬ LogRedacted Scripted.strings Char.isAlphanum joined := by
  intro swallowed joined message
  have hswallowed : swallowed.getMessage Scripted.strings = some message := by decide
  have hjoined : joined.getMessage Scripted.strings = some message := by decide
  have hsame : joined.filter Char.isAlphanum = joined := by rfl
  have hsecret : "hunter2".toList ∈ secretValues Char.isAlphanum message := by decide
  exact ⟨hswallowed, filter_raises Scripted.swallowed_miscounted,
    Scripted.swallowed_miscounted.not_redacted, hjoined, by rw [hsame, hjoined],
    filter_leaks hjoined hsame hsecret⟩

end Gateway

end ObligationRuntime
