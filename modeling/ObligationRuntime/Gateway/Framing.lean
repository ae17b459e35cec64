/-
  ObligationRuntime.Gateway.Framing — messages on a text stream: `_write` and `_read` of
  lsp_client.py, `_write_message` and `_read_message` of mcp_server_main.py.

  Both writers put a header line with the length of the body, a blank line, and the body.
  Both readers take one line, and then as many characters as it says.

  A stream is read with its line ends translated.  The clock says, for each turn of the
  chunk loop, whether the deadline is still ahead.  What the readers take from the language,
  `int` of a text and `json.loads`, is a parameter: the limits on the digits of a number and
  on the nesting of a body are the language's.

  Main results:
    * `contentLength_header` — the length in a header line is read back,
    * `lspRead_takes`, `mcpRead_takes` — what a read takes after a header line.
-/
import ObligationRuntime.Lib.JsonText
import ObligationRuntime.Lib.Text

namespace ObligationRuntime

open Py JsonText

namespace Framing

/-! ## §1. The header. -/

/-- `"Content-Length:"`. -/
def headerName : List Char :=
  ['C', 'o', 'n', 't', 'e', 'n', 't', '-', 'L', 'e', 'n', 'g', 't', 'h', ':']

/-- A header line without its end. -/
def header (n : Nat) : List Char := headerName ++ ' ' :: Nat.toDigits 10 n

/-- A header, a blank line, and a body. -/
def frame (n : Nat) (body : List Char) : List Char :=
  header n ++ '\r' :: '\n' :: '\r' :: '\n' :: body

/-- `_write`, `_write_message`: what is put on the stream. -/
def write (F : FloatText) (msg : Json) : List Char :=
  frame (dump F compact msg).length (dump F compact msg)

/-- Digits, in groups with an underscore between. -/
def pyNat (cs : List Char) : Option Nat :=
  let groups := (cs.map asciiDigit).splitOn '_'
  if groups.all fun g => !g.isEmpty && g.all Char.isDigit then
    some (Nat.ofDigitChars 10 groups.flatten 0)
  else none

/-- `int(text)`, of any number of digits. -/
def pyInt (cs : List Char) : Option Int :=
  match (cs.dropWhile isIntSpace).rdropWhile isIntSpace with
  | '-' :: cs => (pyNat cs).map fun n => -(n : Int)
  | '+' :: cs => (pyNat cs).map Int.ofNat
  | cs => (pyNat cs).map Int.ofNat

/-- What the readers take from the language: `int(text)`, where it raises no `ValueError`, and
`json.loads(text)`. -/
structure Decoder where
  int : List Char → Option Int
  loads : List Char → Except PyError Json

/-- The language without its limits, on texts without lone surrogates. -/
def Decoder.exact (F : FloatText) : Decoder := ⟨pyInt, load F⟩

/-- The length a line says, if it is the header. -/
def contentLength (D : Decoder) (line : List Char) : Option Int :=
  let line := stripChars line
  if headerName.isPrefixOf line then
    (partitionChars ':' line).bind fun p => D.int (stripChars p.2)
  else none

/-! ## §2. The readers. -/

/-- `readline()`: the line with its end, and what is left. -/
def readline : List Char → List Char × List Char
  | [] => ([], [])
  | c :: cs =>
      if c = '\n' then ([c], cs)
      else
        let (line, rest) := readline cs
        (c :: line, rest)

/-- The chunk loop of `_read`: `fuel` bounds its turns. -/
def readChunks (clock : Nat → Bool) : Nat → Nat → Nat → List Char → List Char × List Char
  | 0, _, _, cs => ([], cs)
  | fuel + 1, turn, length, cs =>
      if length = 0 ∨ clock turn = false then ([], cs)
      else
        -- A text stream gives fewer characters only at its end.
        let chunk := cs.take (min length 65536)
        if chunk = [] then ([], cs)
        else
          let (data, rest) := readChunks clock fuel (turn + 1) (length - chunk.length)
            (cs.drop (min length 65536))
          (chunk ++ data, rest)

/-- A reader: the message, or `None`, and what is left of the stream. -/
abbrev Reader := List Char → Except PyError (Option Json) × List Char

/-- A message as a reader returns it: the value `null` is `None`. -/
def received : Json → Option Json
  | .null => none
  | msg => some msg

section

variable (D : Decoder)

/-- `_read`. -/
def lspRead (clock : Nat → Bool) : Reader := fun cs =>
  let (line, rest) := readline cs
  if line = [] then (.ok none, rest)
  else
    match contentLength D line with
    | none => (.ok none, rest)
    | some length =>
        -- The blank line is still on the stream: it counts as part of the body.
        let (body, rest) := readChunks clock length.toNat 0 length.toNat rest
        if body = [] then (.ok none, rest) else ((D.loads body).map received, rest)

/-- `_read_message`: a negative length reads to the end. -/
def mcpRead : Reader := fun cs =>
  let (line, rest) := readline cs
  if line = [] then (.ok none, rest)
  else
    match contentLength D line with
    | none => (.ok none, rest)
    | some length =>
        let n := if length < 0 then rest.length else length.toNat
        ((D.loads (rest.take n)).map received, rest.drop n)

end

/-! ## §3. A header line is read back. -/

/-- The name of the header is a word. -/
theorem word_headerName : Word headerName := by
  refine ⟨by simp [headerName], fun c hc => ?_⟩
  simp only [headerName, List.mem_cons, List.not_mem_nil, or_false] at hc
  rcases hc with rfl | rfl | rfl | rfl | rfl | rfl | rfl | rfl | rfl | rfl | rfl | rfl | rfl | rfl |
    rfl <;> rfl

/-- Digits are no white space. -/
theorem isSpace_digit {c : Char} (h : c.isDigit = true) : isSpace c = false := by
  rw [Bool.eq_false_iff]
  intro hspace
  simp only [Char.isDigit, Bool.and_eq_true, decide_eq_true_eq] at h
  have h1 : 48 ≤ c.toNat := h.1
  have h2 : c.toNat ≤ 57 := h.2
  simp [isSpace] at hspace
  omega

/-- A number is a word. -/
theorem word_toDigits (n : Nat) : Word (Nat.toDigits 10 n) :=
  ⟨Nat.toDigits_ne_nil, fun c hc => isSpace_digit (isDigit_toDigits n c hc)⟩

/-- A header line, stripped, is the header. -/
theorem stripChars_header (n : Nat) : stripChars (header n ++ ['\n']) = header n := by
  have hn : isSpace '\n' = true := by decide
  have hheader : header n = headerName ++ [' '] ++ Nat.toDigits 10 n := by simp [header]
  rw [stripChars_concat_blank hn, hheader, stripChars_words word_headerName (word_toDigits n)]

/-- A digit of ASCII is its own. -/
theorem asciiDigit_digit {c : Char} (h : c.isDigit = true) : asciiDigit c = c := by
  simp only [Char.isDigit, Bool.and_eq_true, decide_eq_true_eq] at h
  have hle : c.toNat ≤ 57 := h.2
  exact if_pos (by omega)

/-- A number is read back from its digits, -/
theorem pyNat_toDigits (n : Nat) : pyNat (Nat.toDigits 10 n) = some n := by
  have hascii : (Nat.toDigits 10 n).map asciiDigit = Nat.toDigits 10 n := by
    conv_rhs => rw [← List.map_id (Nat.toDigits 10 n)]
    exact List.map_congr_left fun c hc => asciiDigit_digit (isDigit_toDigits n c hc)
  have hunderscore : '_' ∉ Nat.toDigits 10 n := by
    intro hmem
    exact absurd (isDigit_toDigits n '_' hmem) (by decide)
  have hdigits : (Nat.toDigits 10 n).all Char.isDigit = true :=
    List.all_eq_true.mpr (isDigit_toDigits n)
  unfold pyNat
  rw [hascii, List.splitOn_eq_singleton hunderscore]
  simp [hdigits, Nat.toDigits_ne_nil, Nat.ofDigitChars_ten_toDigits]

/-- A word has nothing for `int` to drop. -/
theorem dropIntSpace_word {cs : List Char} (h : Word cs) :
    (cs.dropWhile isIntSpace).rdropWhile isIntSpace = cs := by
  have hsolid : ∀ c ∈ cs, isIntSpace c = false := fun c hc => by simp [isIntSpace, h.solid c hc]
  obtain ⟨x, xs, rfl⟩ := List.exists_cons_of_ne_nil h.ne_nil
  have hfront : (x :: xs).dropWhile isIntSpace = x :: xs := by simp [hsolid x (by simp)]
  rw [hfront, List.rdropWhile_eq_self_iff]
  intro hne
  simp [hsolid _ (List.getLast_mem hne)]

/-- and so it is as an integer. -/
theorem pyInt_toDigits (n : Nat) : pyInt (Nat.toDigits 10 n) = some (n : Int) := by
  unfold pyInt
  rw [dropIntSpace_word (word_toDigits n)]
  have hdigit := isDigit_toDigits n
  split
  next heq => exact absurd (hdigit '-' (by simp [heq])) (by decide)
  next heq => exact absurd (hdigit '+' (by simp [heq])) (by decide)
  next => rw [pyNat_toDigits]; rfl

/-- **The length in a header line is read back.** -/
theorem contentLength_header (F : FloatText) (n : Nat) :
    contentLength (.exact F) (header n ++ ['\n']) = some (n : Int) := by
  unfold contentLength
  rw [stripChars_header]
  have hpart : partitionChars ':' (headerName.dropLast ++ ':' :: ' ' :: Nat.toDigits 10 n) =
      some (headerName.dropLast, ' ' :: Nat.toDigits 10 n) :=
    partitionChars_append _ (by decide)
  have hheader : header n = headerName.dropLast ++ ':' :: ' ' :: Nat.toDigits 10 n := rfl
  rw [if_pos (by simp [header]), hheader, hpart, Option.bind_some,
    stripChars_cons_blank (by decide), stripChars_word (word_toDigits n)]
  exact pyInt_toDigits n

/-- A line is read up to its end. -/
theorem readline_line {line : List Char} (h : '\n' ∉ line) (rest : List Char) :
    readline (line ++ '\n' :: rest) = (line ++ ['\n'], rest) := by
  induction line with
  | nil => rfl
  | cons c line ih =>
      obtain ⟨hc, hline⟩ := not_or.mp (mt List.mem_cons.mpr h)
      rw [List.cons_append, readline, if_neg (Ne.symm hc), ih hline]
      rfl

/-- What is neither in the name nor a digit is not in a header. -/
theorem not_mem_header {c : Char} (hname : c ∉ headerName) (hspace : c ≠ ' ')
    (hdigit : c.isDigit = false) (n : Nat) : c ∉ header n := by
  unfold header
  rw [List.mem_append, List.mem_cons]
  rintro (hc | hc | hc)
  · exact hname hc
  · exact hspace hc
  · rw [isDigit_toDigits n c hc] at hdigit
    cases hdigit

/-- A header is one line. -/
theorem newline_not_mem_header (n : Nat) : '\n' ∉ header n :=
  not_mem_header (by decide) (by decide) (by decide) n

/-- In time, the chunks are the characters the header says. -/
theorem readChunks_inTime (fuel turn length : Nat) (cs : List Char) (h : length ≤ fuel) :
    readChunks (fun _ => true) fuel turn length cs = (cs.take length, cs.drop length) := by
  induction fuel generalizing turn length cs with
  | zero =>
      obtain rfl : length = 0 := by omega
      rfl
  | succ fuel ih =>
      unfold readChunks
      by_cases hzero : length = 0
      · subst hzero
        simp
      · rw [if_neg (by simp [hzero])]
        dsimp only
        by_cases hnil : cs.take (min length 65536) = []
        · have hcs : cs = [] := by
            rcases List.take_eq_nil_iff.mp hnil with hmin | hcs
            · omega
            · exact hcs
          rw [if_pos hnil, hcs]
          simp
        · rw [if_neg hnil]
          have hlen : 0 < (cs.take (min length 65536)).length := List.length_pos_of_ne_nil hnil
          rw [ih (turn + 1) _ _ (by omega)]
          -- A chunk is short only at the end of the stream.
          have hsplit : (cs.take (min length 65536)).length = min (min length 65536) cs.length :=
            List.length_take ..
          by_cases hshort : cs.length ≤ min length 65536
          · have hdrop : cs.drop (min length 65536) = [] := List.drop_eq_nil_of_le hshort
            have htake : cs.take (min length 65536) = cs := List.take_of_length_le hshort
            rw [hdrop, htake, List.take_of_length_le (Nat.le_trans hshort (by omega)),
              List.drop_eq_nil_of_le (Nat.le_trans hshort (by omega))]
            simp
          · have hchunk : (cs.take (min length 65536)).length = min length 65536 := by omega
            rw [hchunk, List.drop_drop, ← List.take_add]
            have hsum : min length 65536 + (length - min length 65536) = length := by omega
            rw [hsum]

/-- **What a read takes** after a header line: the length says how much, and a body that is
not empty is the message. -/
structure Takes (F : FloatText) (reader : Reader) : Prop where
  done : reader [] = (.ok none, [])
  rest : ∀ n cs, (reader (header n ++ '\n' :: cs)).2 = cs.drop n
  body : ∀ n cs, cs.take n ≠ [] →
    (reader (header n ++ '\n' :: cs)).1 = (load F (cs.take n)).map received

/-- The reader of the client takes well-formed frames, -/
theorem lspRead_takes (F : FloatText) : Takes F (lspRead (.exact F) fun _ => true) where
  done := rfl
  rest n cs := by
    unfold lspRead
    rw [readline_line (newline_not_mem_header n)]
    simp only [contentLength_header, Int.toNat_natCast, readChunks_inTime _ _ _ _ (Nat.le_refl n)]
    simp only [List.append_eq_nil_iff, List.cons_ne_nil, and_false, if_false]
    split <;> rfl
  body n cs hbody := by
    unfold lspRead
    rw [readline_line (newline_not_mem_header n)]
    simp only [contentLength_header, Int.toNat_natCast, readChunks_inTime _ _ _ _ (Nat.le_refl n)]
    simp only [List.append_eq_nil_iff, List.cons_ne_nil, and_false, if_false, hbody]
    rfl

/-- and so does the reader of the adapter. -/
theorem mcpRead_takes (F : FloatText) : Takes F (mcpRead (.exact F)) where
  done := rfl
  rest n cs := by
    unfold mcpRead
    rw [readline_line (newline_not_mem_header n)]
    have hlength : ¬ (n : Int) < 0 := by omega
    simp [contentLength_header, hlength]
  body n cs hbody := by
    unfold mcpRead
    rw [readline_line (newline_not_mem_header n)]
    have hlength : ¬ (n : Int) < 0 := by omega
    simp only [contentLength_header, hlength, if_false, Int.toNat_natCast]
    simp [Decoder.exact]

end Framing

end ObligationRuntime
