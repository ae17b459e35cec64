/-
  ObligationRuntime.Lib.Text — the string methods of Python.

  Each is a structural recursion over the characters, so that it can be decided
  on a concrete text: `strip`, `splitLines`, `partition`, `split`, `lower`,
  `replaceChar`, `contains` (the `in` operator on strings) and the shell-style
  matcher `fnmatch`.

  `fnmatch` is the POSIX one (`normcase` is the identity): `*` matches any run
  of characters, `/` included, `?` any one character, `[seq]` and `[!seq]` a
  class; a class that is never closed is a literal bracket, a `-` between two
  characters is a range, and a backslash is an ordinary character.
-/
import Mathlib.Data.List.DropRight
import Mathlib.Data.List.Infix

namespace Py

/-! ## §1. Characters. -/

/-- `str.isspace` on one character. -/
def isSpace (c : Char) : Bool :=
  let n := c.toNat
  (9 ≤ n && n ≤ 13) || (28 ≤ n && n ≤ 32) || n == 0x85 || n == 0xa0 || n == 0x1680 ||
    (0x2000 ≤ n && n ≤ 0x200a) || n == 0x2028 || n == 0x2029 || n == 0x202f || n == 0x205f ||
    n == 0x3000

/-- The characters at which `str.splitlines` ends a line. -/
def isLineBreak (c : Char) : Bool :=
  let n := c.toNat
  (10 ≤ n && n ≤ 13) || (28 ≤ n && n ≤ 30) || n == 0x85 || n == 0x2028 || n == 0x2029

/-- The first of each run of ten decimal digits outside ASCII, in Unicode 15.0. -/
def decimalZeros : List Nat :=
  [0x660, 0x6f0, 0x7c0, 0x966, 0x9e6, 0xa66, 0xae6, 0xb66, 0xbe6, 0xc66, 0xce6, 0xd66, 0xde6, 0xe50,
    0xed0, 0xf20, 0x1040, 0x1090, 0x17e0, 0x1810, 0x1946, 0x19d0, 0x1a80, 0x1a90, 0x1b50, 0x1bb0,
    0x1c40, 0x1c50, 0xa620, 0xa8d0, 0xa900, 0xa9d0, 0xa9f0, 0xaa50, 0xabf0, 0xff10, 0x104a0,
    0x10d30, 0x11066, 0x110f0, 0x11136, 0x111d0, 0x112f0, 0x11450, 0x114d0, 0x11650, 0x116c0,
    0x11730, 0x118e0, 0x11950, 0x11c50, 0x11d50, 0x11da0, 0x11f50, 0x16a60, 0x16ac0, 0x16b50,
    0x1d7ce, 0x1d7d8, 0x1d7e2, 0x1d7ec, 0x1d7f6, 0x1e140, 0x1e2f0, 0x1e4f0, 0x1e950, 0x1fbf0]

/-- A character as `int` takes it: a decimal digit of any script is the ASCII digit. -/
def asciiDigit (c : Char) : Char :=
  if c.toNat < 128 then c
  else
    match decimalZeros.find? fun z => z ≤ c.toNat && c.toNat ≤ z + 9 with
    | some z => Nat.digitChar (c.toNat - z)
    | none => c

/-- The white space that `int` drops: the separators of ASCII are not. -/
def isIntSpace (c : Char) : Bool := isSpace c && !(28 ≤ c.toNat && c.toNat ≤ 31)

/-! ## §2. Methods. -/

/-- `s.strip()`. -/
def stripChars (cs : List Char) : List Char := (cs.dropWhile isSpace).rdropWhile isSpace

/-- `s.strip()`. -/
def strip (s : String) : String := String.ofList (stripChars s.toList)

/-- `s.lower()`, on the ASCII letters. -/
def lower (s : String) : String := String.ofList (s.toList.map Char.toLower)

/-- `s.splitlines()`, with the current line read so far. -/
def splitLinesFrom : List Char → List Char → List (List Char)
  | cur, [] => if cur = [] then [] else [cur.reverse]
  -- `\r\n` is ONE break.
  | cur, '\r' :: '\n' :: cs => cur.reverse :: splitLinesFrom [] cs
  | cur, c :: cs =>
      if isLineBreak c then cur.reverse :: splitLinesFrom [] cs
      else splitLinesFrom (c :: cur) cs

/-- `s.splitlines()`. -/
def splitLines (s : String) : List String := (splitLinesFrom [] s.toList).map String.ofList

/-- `s.partition(sep)` when the separator occurs: what stands before the first
one and what stands after it. -/
def partitionChars (sep : Char) : List Char → Option (List Char × List Char)
  | [] => none
  | c :: cs =>
      if c = sep then some ([], cs)
      else (partitionChars sep cs).map fun p => (c :: p.1, p.2)

/-- `s.split(sep)`. -/
def split (sep : Char) (s : String) : List String := (s.toList.splitOn sep).map String.ofList

/-- `s.replace(a, b)` for one-character strings. -/
def replaceChar (a b : Char) (s : String) : String :=
  String.ofList (s.toList.map fun c => if c = a then b else c)

/-- `needle in s`. -/
def contains (needle s : String) : Bool := decide (needle.toList <:+: s.toList)

/-- `os.path.basename(s)`: what follows the last `/`. -/
def basename (s : String) : String :=
  String.ofList ((s.toList.reverse.takeWhile (· ≠ '/')).reverse)

/-! ## §3. `fnmatch`. -/

namespace Fnmatch

/-- An element of a character class. -/
inductive Item where
  | one (c : Char)
  | range (lo hi : Char)
  deriving DecidableEq, Repr

/-- The elements of a class body: `a-b` is a range, a `-` elsewhere is itself. -/
def items : List Char → List Item
  | a :: '-' :: b :: cs => .range a b :: items cs
  | a :: cs => .one a :: items cs
  | [] => []

/-- Is a character in an element? -/
def Item.has (c : Char) : Item → Bool
  | .one d => c = d
  | .range lo hi => decide (lo ≤ c ∧ c ≤ hi)

/-- One token of a pattern. -/
inductive Token where
  | star
  | any
  | lit (c : Char)
  | cls (negated : Bool) (items : List Item)
  deriving DecidableEq, Repr

/-- Split at the bracket that closes a class; one that comes first is an element
of it. -/
def closing (cs : List Char) : Option (List Char × List Char) :=
  match cs with
  | ']' :: cs => (partitionChars ']' cs).map fun p => (']' :: p.1, p.2)
  | cs => partitionChars ']' cs

/-- The tokens of a pattern; `fuel` bounds its length. -/
def tokensFuel : Nat → List Char → List Token
  | 0, _ => []
  | _ + 1, [] => []
  | n + 1, '*' :: cs => .star :: tokensFuel n cs
  | n + 1, '?' :: cs => .any :: tokensFuel n cs
  -- A class that never closes leaves its bracket as a literal.
  | n + 1, '[' :: '!' :: cs =>
      match closing cs with
      | some (body, rest) => .cls true (items body) :: tokensFuel n rest
      | none => .lit '[' :: tokensFuel n ('!' :: cs)
  | n + 1, '[' :: cs =>
      match closing cs with
      | some (body, rest) => .cls false (items body) :: tokensFuel n rest
      | none => .lit '[' :: tokensFuel n cs
  | n + 1, c :: cs => .lit c :: tokensFuel n cs

/-- The tokens of a pattern: each one uses up a character. -/
def tokens (pat : String) : List Token := tokensFuel pat.toList.length pat.toList

/-- Does a token that stands for one character match it? -/
def Token.accepts (c : Char) : Token → Bool
  | .star => false
  | .any => true
  | .lit d => c = d
  | .cls neg is => is.any (Item.has c) != neg

/-- Some suffix of the list satisfies `p`. -/
def anySuffix (p : List Char → Bool) : List Char → Bool
  | [] => p []
  | c :: cs => p (c :: cs) || anySuffix p cs

/-- Match a token list against a whole text. -/
def matchTokens : List Token → List Char → Bool
  | [], cs => cs.isEmpty
  | .star :: ts, cs => anySuffix (matchTokens ts) cs
  | t :: ts, c :: cs => t.accepts c && matchTokens ts cs
  | _ :: _, [] => false

end Fnmatch

/-- `fnmatch.fnmatch(name, pat)` on POSIX. -/
def fnmatch (name pat : String) : Bool :=
  Fnmatch.matchTokens (Fnmatch.tokens pat) name.toList

example : fnmatch "Foo/Safety.lean" "*.lean" = true ∧ fnmatch "a.lean" "[!b-z].lean" = true ∧
    fnmatch "a" "[" = false := by decide

/-! ## §4. Facts. -/

/-- A word: some characters, none of them a space. -/
structure Word (cs : List Char) : Prop where
  ne_nil : cs ≠ []
  solid : ∀ c ∈ cs, isSpace c = false

section Strip

variable {cs xs ys : List Char}

/-- A text that starts and ends with a word has nothing to strip. -/
theorem stripChars_words (hx : Word xs) (hy : Word ys) (mid : List Char) :
    stripChars (xs ++ mid ++ ys) = xs ++ mid ++ ys := by
  obtain ⟨x, xs, rfl⟩ := List.exists_cons_of_ne_nil hx.ne_nil
  have hfront : (x :: xs ++ mid ++ ys).dropWhile isSpace = x :: xs ++ mid ++ ys := by
    simp [hx.solid x (by simp)]
  rw [stripChars, hfront, List.rdropWhile_eq_self_iff]
  intro hne
  rw [List.getLast_append_of_ne_nil _ hy.ne_nil]
  simp [hy.solid _ (List.getLast_mem hy.ne_nil)]

/-- A word has nothing to strip. -/
theorem stripChars_word (h : Word cs) : stripChars cs = cs := by
  obtain ⟨x, xs, rfl⟩ := List.exists_cons_of_ne_nil h.ne_nil
  have hfront : (x :: xs).dropWhile isSpace = x :: xs := by simp [h.solid x (by simp)]
  rw [stripChars, hfront, List.rdropWhile_eq_self_iff]
  intro hne
  simp [h.solid _ (List.getLast_mem hne)]

/-- A blank at the front goes. -/
theorem stripChars_cons_blank {c : Char} (h : isSpace c = true) (cs : List Char) :
    stripChars (c :: cs) = stripChars cs := by
  simp [stripChars, h]

/-- A blank at the end goes. -/
theorem stripChars_concat_blank {c : Char} (h : isSpace c = true) (cs : List Char) :
    stripChars (cs ++ [c]) = stripChars cs := by
  rw [stripChars, stripChars, List.dropWhile_append]
  by_cases hcs : cs.dropWhile isSpace = []
  · simp [hcs, h]
  · rw [if_neg (by simpa using hcs), List.rdropWhile_concat_pos _ _ _ h]

/-- Blanks are dropped up to the first solid character at most. -/
theorem dropWhile_solid {c : Char} (h : isSpace c = false) (xs ys : List Char) :
    (xs ++ c :: ys).dropWhile isSpace = xs.dropWhile isSpace ++ c :: ys := by
  rw [List.dropWhile_append]
  by_cases hxs : xs.dropWhile isSpace = []
  · simp [hxs, h]
  · rw [if_neg (by simpa using hxs)]

/-- A solid character keeps the two ends apart. -/
theorem stripChars_solid {c : Char} (h : isSpace c = false) (xs ys : List Char) :
    stripChars (xs ++ c :: ys) = xs.dropWhile isSpace ++ c :: ys.rdropWhile isSpace := by
  rw [stripChars, dropWhile_solid h, List.rdropWhile, List.rdropWhile]
  simp [dropWhile_solid h]

/-- What `strip` takes away are blanks at the two ends. -/
theorem exists_stripChars (cs : List Char) : ∃ before after,
    (∀ c ∈ before, isSpace c = true) ∧ (∀ c ∈ after, isSpace c = true) ∧
      before ++ stripChars cs ++ after = cs :=
  ⟨cs.takeWhile isSpace, (cs.dropWhile isSpace).rtakeWhile isSpace,
    fun _ hc => List.mem_takeWhile_imp hc, fun _ hc => List.mem_rtakeWhile_imp hc, by
      rw [stripChars, List.append_assoc, List.rdropWhile_append_rtakeWhile,
        List.takeWhile_append_dropWhile]⟩

end Strip

/-- The separator after the first piece. -/
theorem partitionChars_append {sep : Char} : ∀ {xs : List Char} (ys : List Char), sep ∉ xs →
    partitionChars sep (xs ++ sep :: ys) = some (xs, ys)
  | [], ys, _ => by simp [partitionChars]
  | x :: xs, ys, h => by
      simp only [List.mem_cons, not_or] at h
      have hx : x ≠ sep := fun e => h.1 e.symm
      simp [partitionChars, hx, partitionChars_append ys h.2]

end Py
