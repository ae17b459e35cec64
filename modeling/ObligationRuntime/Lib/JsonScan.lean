/-
  ObligationRuntime.Lib.JsonScan — strings and numbers in a JSON text.

  The scanners of the `json` module read from the front of a text and give what they
  read and what is left.  The writer keeps to ASCII: whatever is not printable there
  stands as `\uXXXX`, a character outside the basic plane as a pair of surrogates.

  A surrogate without its partner is refused here: `String` has no such character.

  Main results:
    * `scanString_dumpStr` — a string is read back, whatever follows,
    * `scanNumber_intText` — an integer is read back, where no digit, fraction or
      exponent follows.
-/
import ObligationRuntime.Lib.Value
import Mathlib.Tactic.SplitIfs

namespace JsonText

open Py

/-! ## §1. Characters. -/

/-- The quotation mark. -/
def quote : Char := '\x22'

/-- The backslash. -/
def backslash : Char := '\x5c'

/-- The white space of a JSON text. -/
def isBlank (c : Char) : Bool := c = ' ' || c = '\t' || c = '\n' || c = '\r'

/-- The text from its first character that is no white space. -/
def skipBlanks (cs : List Char) : List Char := cs.dropWhile isBlank

/-- A printable character of ASCII. -/
def printable (c : Char) : Bool := 32 ≤ c.toNat && c.toNat < 127

/-- The four hexadecimal digits of a code. -/
def hex4 (n : Nat) : List Char :=
  [Nat.digitChar (n / 4096), Nat.digitChar (n / 256 % 16), Nat.digitChar (n / 16 % 16),
    Nat.digitChar (n % 16)]

/-- `\uXXXX`. -/
def unicodeEscape (n : Nat) : List Char := backslash :: 'u' :: hex4 n

/-- The high surrogate of a character outside the basic plane. -/
def highSurrogate (n : Nat) : Nat := 0xd800 + (n - 0x10000) / 1024

/-- The low surrogate. -/
def lowSurrogate (n : Nat) : Nat := 0xdc00 + (n - 0x10000) % 1024

/-- The escapes of one character behind the backslash, with and without `ensure_ascii`. -/
def shortEscape (c : Char) : Option Char :=
  if c = quote then some quote
  else if c = backslash then some backslash
  else if c = '\n' then some 'n'
  else if c = '\r' then some 'r'
  else if c = '\t' then some 't'
  else if c = '\x08' then some 'b'
  else if c = '\x0c' then some 'f'
  else none

/-- How a character stands in a string, with `ensure_ascii`. -/
def escapeChar (c : Char) : List Char :=
  match shortEscape c with
  | some d => [backslash, d]
  | none =>
      if printable c then [c]
      else if c.toNat < 0x10000 then unicodeEscape c.toNat
      else unicodeEscape (highSurrogate c.toNat) ++ unicodeEscape (lowSurrogate c.toNat)

/-- The text of a string. -/
def dumpStr (s : String) : List Char := quote :: (s.toList.flatMap escapeChar ++ [quote])

/-! ## §2. The scanner of strings. -/

/-- The value of a hexadecimal digit. -/
def hexDigit (c : Char) : Option Nat :=
  if '0' ≤ c ∧ c ≤ '9' then some (c.toNat - 48)
  else if 'a' ≤ c ∧ c ≤ 'f' then some (c.toNat - 87)
  else if 'A' ≤ c ∧ c ≤ 'F' then some (c.toNat - 55)
  else none

/-- Read four hexadecimal digits. -/
def readHex4 : List Char → Option (Nat × List Char)
  | a :: b :: c :: d :: r => do
      let a ← hexDigit a
      let b ← hexDigit b
      let c ← hexDigit c
      let d ← hexDigit d
      return (4096 * a + 256 * b + 16 * c + d, r)
  | _ => none

/-- Read what follows `\u`: one code, or two that are a pair of surrogates. -/
def readUnicode (cs : List Char) : Option (Char × List Char) := do
  let (n, r) ← readHex4 cs
  if 0xd800 ≤ n ∧ n < 0xdc00 then
    match r with
    | '\x5c' :: 'u' :: r => do
        let (m, r) ← readHex4 r
        if 0xdc00 ≤ m ∧ m < 0xe000 then
          return (Char.ofNat (0x10000 + 1024 * (n - 0xd800) + (m - 0xdc00)), r)
        else none
    | _ => none
  else if 0xdc00 ≤ n ∧ n < 0xe000 then none
  else return (Char.ofNat n, r)

/-- Read what follows a backslash. -/
def readEscape : List Char → Option (Char × List Char)
  | '\x22' :: r => some (quote, r)
  | '\x5c' :: r => some (backslash, r)
  | '/' :: r => some ('/', r)
  | 'b' :: r => some ('\x08', r)
  | 'f' :: r => some ('\x0c', r)
  | 'n' :: r => some ('\n', r)
  | 'r' :: r => some ('\r', r)
  | 't' :: r => some ('\t', r)
  | 'u' :: r => readUnicode r
  | _ => none

/-- Read a character of a string; a control character may not stand for itself. -/
def readChar : List Char → Option (Char × List Char)
  | [] => none
  | c :: r =>
      if c = backslash then readEscape r
      else if c.toNat < 32 then none
      else some (c, r)

/-- `scanstring`, after the quotation mark: `fuel` bounds the characters. -/
def scanChars : Nat → List Char → Option (List Char × List Char)
  | 0, _ => none
  | _ + 1, [] => none
  | n + 1, c :: cs =>
      if c = quote then some ([], cs)
      else do
        let (d, r) ← readChar (c :: cs)
        let (ds, r) ← scanChars n r
        return (d :: ds, r)

/-- `scanstring`. -/
def scanString (cs : List Char) : Option (String × List Char) :=
  (scanChars cs.length cs).map fun p => (String.ofList p.1, p.2)

/-! ## §3. Strings are read back. -/

/-- A digit is read back, -/
theorem hexDigit_digitChar : ∀ n < 16, hexDigit (Nat.digitChar n) = some n := by decide

/-- and so are four of them. -/
theorem readHex4_hex4 {n : Nat} (h : n < 65536) (r : List Char) :
    readHex4 (hex4 n ++ r) = some (n, r) := by
  have h1 := hexDigit_digitChar (n / 4096) (by omega)
  have h2 := hexDigit_digitChar (n / 256 % 16) (by omega)
  have h3 := hexDigit_digitChar (n / 16 % 16) (by omega)
  have h4 := hexDigit_digitChar (n % 16) (by omega)
  have hsum : 4096 * (n / 4096) + 256 * (n / 256 % 16) + 16 * (n / 16 % 16) + n % 16 = n := by
    omega
  simp [hex4, readHex4, h1, h2, h3, h4, hsum]

/-- A code that is no surrogate. -/
theorem readUnicode_hex4 {n : Nat} (h : n < 65536) (hs : n < 0xd800 ∨ 0xe000 ≤ n)
    (r : List Char) : readUnicode (hex4 n ++ r) = some (Char.ofNat n, r) := by
  have hhigh : ¬ (0xd800 ≤ n ∧ n < 0xdc00) := by omega
  have hlow : ¬ (0xdc00 ≤ n ∧ n < 0xe000) := by omega
  simp [readUnicode, readHex4_hex4 h, hhigh, hlow]

/-- Two codes that are a pair of surrogates. -/
theorem readUnicode_codes {h l n : Nat} (hhigh : 0xd800 ≤ h ∧ h < 0xdc00)
    (hlow : 0xdc00 ≤ l ∧ l < 0xe000)
    (hsum : 0x10000 + 1024 * (h - 0xd800) + (l - 0xdc00) = n) (r : List Char) :
    readUnicode (hex4 h ++ (unicodeEscape l ++ r)) = some (Char.ofNat n, r) := by
  subst hsum
  have hread := readHex4_hex4 (n := l) (by omega) r
  have hfirst := readHex4_hex4 (n := h) (by omega) (unicodeEscape l ++ r)
  unfold readUnicode
  rw [hfirst]
  simp only [Option.bind_eq_bind, Option.bind_some, hhigh, and_self, if_true, unicodeEscape,
    List.cons_append, backslash]
  rw [hread]
  simp only [Option.bind_some, hlow, and_self, if_true, Option.pure_def]

/-- A pair of surrogates. -/
theorem readUnicode_pair {n : Nat} (h : 0x10000 ≤ n) (hn : n < 0x110000) (r : List Char) :
    readUnicode (hex4 (highSurrogate n) ++ (unicodeEscape (lowSurrogate n) ++ r)) =
      some (Char.ofNat n, r) := by
  refine readUnicode_codes ?_ ?_ ?_ r
  · unfold highSurrogate
    omega
  · unfold lowSurrogate
    omega
  · unfold highSurrogate lowSurrogate
    omega

/-- A character is a code point, and no surrogate. -/
theorem toNat_scalar (c : Char) : c.toNat < 0x110000 ∧ (c.toNat < 0xd800 ∨ 0xe000 ≤ c.toNat) := by
  have hc := c.valid
  simp only [UInt32.isValidChar, Nat.isValidChar] at hc
  show c.val.toNat < 0x110000 ∧ (c.val.toNat < 0xd800 ∨ 0xe000 ≤ c.val.toNat)
  omega

/-- A short escape is read back. -/
theorem readEscape_shortEscape {c d : Char} (h : shortEscape c = some d) (r : List Char) :
    readEscape (d :: r) = some (c, r) := by
  unfold shortEscape at h
  split_ifs at h with hq hb hn hr ht h8 hf
  all_goals
    cases h
    subst c
    rfl

/-- A character without a short escape is neither the quotation mark nor the backslash. -/
theorem shortEscape_eq_none {c : Char} (h : shortEscape c = none) : c ≠ quote ∧ c ≠ backslash := by
  constructor
  · rintro rfl
    cases h
  · rintro rfl
    cases h

/-- A character that stands for itself is read back. -/
theorem readChar_plain {c : Char} (hb : c ≠ backslash) (hc : ¬ c.toNat < 32) (r : List Char) :
    readChar (c :: r) = some (c, r) := by
  simp [readChar, hb, hc]

/-- **A character is read back.** -/
theorem readChar_escapeChar (c : Char) (r : List Char) :
    readChar (escapeChar c ++ r) = some (c, r) := by
  unfold escapeChar
  cases hshort : shortEscape c with
  | some d => exact readEscape_shortEscape hshort r
  | none =>
      simp only
      split_ifs with hp hbmp
      · refine readChar_plain (shortEscape_eq_none hshort).2 ?_ r
        simp only [printable, Bool.and_eq_true, decide_eq_true_eq] at hp
        omega
      · show readUnicode (hex4 c.toNat ++ r) = some (c, r)
        rw [readUnicode_hex4 hbmp (toNat_scalar c).2, Char.ofNat_toNat]
      · have hpair := readUnicode_pair (n := c.toNat) (by omega) (toNat_scalar c).1 r
        rw [Char.ofNat_toNat] at hpair
        show readUnicode ((hex4 _ ++ unicodeEscape _) ++ r) = some (c, r)
        rw [List.append_assoc]
        exact hpair

/-- In a code that is read back, and escapes the quotation mark, no character stands as a
quotation mark. -/
theorem code_cons {code : Char → List Char} (hcode : ∀ c r, readChar (code c ++ r) = some (c, r))
    (hquote : code quote = [backslash, quote]) (c : Char) :
    ∃ d w, code c = d :: w ∧ d ≠ quote := by
  cases hw : code c with
  | nil =>
      have hread := hcode c []
      simp [hw, readChar] at hread
  | cons d w =>
      refine ⟨d, w, rfl, ?_⟩
      rintro rfl
      -- Only a character that stands for itself does not start with a backslash.
      have hself : readChar (quote :: w) = some (quote, w) :=
        readChar_plain (by decide) (by decide) w
      have hread := hcode c []
      rw [hw, List.append_nil, hself] at hread
      obtain ⟨rfl, rfl⟩ := Prod.mk.inj (Option.some.inj hread)
      rw [hquote] at hw
      cases hw

/-- The text of a character is not empty, and does not start with the quotation mark. -/
theorem escapeChar_cons (c : Char) : ∃ d w, escapeChar c = d :: w ∧ d ≠ quote :=
  code_cons readChar_escapeChar rfl c

/-- The characters of a string are read back up to the quotation mark. -/
theorem scanChars_escaped (ds r : List Char) {n : Nat} (hn : ds.length < n) :
    scanChars n (ds.flatMap escapeChar ++ quote :: r) = some (ds, r) := by
  induction ds generalizing n with
  | nil =>
      cases n with
      | zero => cases hn
      | succ n => simp [scanChars]
  | cons d ds ih =>
      cases n with
      | zero => cases hn
      | succ n =>
          obtain ⟨e, w, hw, he⟩ := escapeChar_cons d
          have hread := readChar_escapeChar d (ds.flatMap escapeChar ++ quote :: r)
          have hrest := ih (n := n) (by simpa using hn)
          rw [List.flatMap_cons, List.append_assoc]
          rw [hw] at hread ⊢
          rw [List.cons_append] at hread ⊢
          simp only [scanChars, he, if_false, hread, Option.bind_eq_bind, Option.bind_some, hrest]
          rfl

/-- Characters do not get lost in the text of a string. -/
theorem length_le_flatMap (ds : List Char) : ds.length ≤ (ds.flatMap escapeChar).length := by
  induction ds with
  | nil => exact Nat.le_refl 0
  | cons d ds ih =>
      obtain ⟨e, w, hw, -⟩ := escapeChar_cons d
      simp only [List.flatMap_cons, List.length_append, List.length_cons, hw]
      omega

/-- **A string is read back**, whatever follows. -/
theorem scanString_dumpStr (s : String) (r : List Char) :
    scanString (s.toList.flatMap escapeChar ++ quote :: r) = some (s, r) := by
  have hlen : s.toList.length < (s.toList.flatMap escapeChar ++ quote :: r).length := by
    have hle := length_le_flatMap s.toList
    simp only [List.length_append, List.length_cons]
    omega
  rw [scanString, scanChars_escaped s.toList r hlen]
  simp

/-! ## §4. Numbers. -/

/-- How the language reads and writes a float.  What it writes is printable. -/
structure FloatText where
  repr : Rat → List Char
  parse : List Char → Json
  repr_printable : ∀ q, (repr q).all printable = true

/-- For texts without floats. -/
def noFloats : FloatText := ⟨fun _ => [], fun _ => .null, fun _ => rfl⟩

/-- `int.__repr__`. -/
def intText : Int → List Char
  | .ofNat n => Nat.toDigits 10 n
  | .negSucc n => '-' :: Nat.toDigits 10 (n + 1)

/-- The digits at the front, and what is left. -/
def digits (cs : List Char) : List Char × List Char :=
  (cs.takeWhile Char.isDigit, cs.dropWhile Char.isDigit)

/-- The integer part: a zero, or digits that do not start with one. -/
def intPart : List Char → Option (List Char × List Char)
  | [] => none
  | c :: r =>
      if c = '0' then some (['0'], r)
      else if c.isDigit then some (digits (c :: r))
      else none

/-- The fraction, if there is one. -/
def fraction : List Char → List Char × List Char
  | [] => ([], [])
  | c :: r =>
      let (ds, r') := digits r
      if c = '.' ∧ ds ≠ [] then ('.' :: ds, r') else ([], c :: r)

/-- The sign of an exponent, if there is one. -/
def exponentSign : List Char → List Char × List Char
  | '+' :: r => (['+'], r)
  | '-' :: r => (['-'], r)
  | r => ([], r)

/-- The exponent, if there is one. -/
def exponent : List Char → List Char × List Char
  | [] => ([], [])
  | c :: r =>
      let (s, r') := exponentSign r
      let (ds, r'') := digits r'
      if (c = 'e' ∨ c = 'E') ∧ ds ≠ [] then (c :: (s ++ ds), r'') else ([], c :: r)

/-- The integer of a sign and digits. -/
def signed (negative : Bool) (ds : List Char) : Int :=
  if negative then -(Nat.ofDigitChars 10 ds 0) else Nat.ofDigitChars 10 ds 0

/-- Read a number without its sign. -/
def scanUnsigned (F : FloatText) (negative : Bool) (cs : List Char) :
    Option (Json × List Char) := do
  let (ds, r) ← intPart cs
  let (fs, r) := fraction r
  let (es, r) := exponent r
  if fs = [] ∧ es = [] then return (.int (signed negative ds), r)
  else return (F.parse ((if negative then ['-'] else []) ++ ds ++ fs ++ es), r)

/-- `match_number`. -/
def scanNumber (F : FloatText) : List Char → Option (Json × List Char)
  | '-' :: cs => scanUnsigned F true cs
  | cs => scanUnsigned F false cs

/-- What may follow a number: nothing that goes on with it. -/
def Stops (r : List Char) : Prop :=
  ∀ c ∈ r.head?, c.isDigit = false ∧ c ≠ '.' ∧ c ≠ 'e' ∧ c ≠ 'E'

/-- The digits in front are read. -/
theorem digits_append {ds r : List Char} (hds : ∀ c ∈ ds, c.isDigit = true)
    (hr : ∀ c ∈ r.head?, c.isDigit = false) : digits (ds ++ r) = (ds, r) := by
  have hdrop : r.dropWhile Char.isDigit = r := by
    cases r with
    | nil => rfl
    | cons c r => exact List.dropWhile_cons_of_neg (by simp [hr c rfl])
  have htake : r.takeWhile Char.isDigit = [] := by
    cases r with
    | nil => rfl
    | cons c r => exact List.takeWhile_cons_of_neg (by simp [hr c rfl])
  rw [digits, List.takeWhile_append_of_pos hds, List.dropWhile_append_of_pos hds, hdrop, htake,
    List.append_nil]

/-- A number is written in digits, -/
theorem isDigit_toDigits (n : Nat) : ∀ c ∈ Nat.toDigits 10 n, c.isDigit = true := by
  intro c hc
  exact Nat.isDigit_of_mem_toDigits (by decide) (by decide) hc

/-- one at least. -/
theorem toDigits_cons (n : Nat) : ∃ c w, Nat.toDigits 10 n = c :: w ∧ c.isDigit = true := by
  have hdigit := isDigit_toDigits n
  cases hw : Nat.toDigits 10 n with
  | nil => exact absurd hw Nat.toDigits_ne_nil
  | cons c w => exact ⟨c, w, rfl, hdigit c (by simp [hw])⟩

/-- An integer starts with a digit or its sign. -/
theorem intText_cons (i : Int) : ∃ c w, intText i = c :: w ∧ (c.isDigit = true ∨ c = '-') := by
  cases i with
  | ofNat n =>
      obtain ⟨c, w, hw, hc⟩ := toDigits_cons n
      exact ⟨c, w, hw, .inl hc⟩
  | negSucc n => exact ⟨'-', _, rfl, .inr rfl⟩

theorem ne_of_isDigit {c d : Char} (hc : c.isDigit = true) (hd : d.isDigit = false) : c ≠ d := by
  rintro rfl
  rw [hc] at hd
  cases hd

/-- A number that is not zero does not start with one. -/
theorem toDigits_head {n : Nat} (hn : 0 < n) :
    ∃ c w, Nat.toDigits 10 n = c :: w ∧ c ≠ '0' := by
  induction n using Nat.strongRecOn with
  | ind n ih =>
      by_cases hlt : n < 10
      · have hone : ∀ m < 10, 0 < m → Nat.digitChar m ≠ '0' := by decide
        exact ⟨_, [], Nat.toDigits_of_lt_base hlt, hone n hlt hn⟩
      · obtain ⟨c, w, hw, hc⟩ := ih (n / 10) (by omega) (by omega)
        refine ⟨c, w ++ [Nat.digitChar (n % 10)], ?_, hc⟩
        rw [Nat.toDigits_of_base_le (by decide) (by omega), hw]
        rfl

/-- The integer part of a number is read back. -/
theorem intPart_toDigits (n : Nat) {r : List Char} (hr : ∀ c ∈ r.head?, c.isDigit = false) :
    intPart (Nat.toDigits 10 n ++ r) = some (Nat.toDigits 10 n, r) := by
  by_cases hn : n = 0
  · subst hn
    rw [Nat.toDigits_zero]
    rfl
  · obtain ⟨c, w, hw, hc⟩ := toDigits_head (Nat.pos_of_ne_zero hn)
    have hdigit : c.isDigit = true := isDigit_toDigits n c (by simp [hw])
    have hall := digits_append (isDigit_toDigits n) hr
    rw [hw] at hall ⊢
    rw [List.cons_append] at hall ⊢
    rw [intPart, if_neg hc, if_pos hdigit, hall]

/-- Where a number stops it has no fraction, -/
theorem fraction_stops {r : List Char} (h : Stops r) : fraction r = ([], r) := by
  cases r with
  | nil => rfl
  | cons c r => simp [fraction, (h c rfl).2.1]

/-- and no exponent. -/
theorem exponent_stops {r : List Char} (h : Stops r) : exponent r = ([], r) := by
  cases r with
  | nil => rfl
  | cons c r => simp [exponent, (h c rfl).2.2.1, (h c rfl).2.2.2]

/-- A number without its sign is read back. -/
theorem scanUnsigned_toDigits (F : FloatText) (negative : Bool) (n : Nat) {r : List Char}
    (h : Stops r) :
    scanUnsigned F negative (Nat.toDigits 10 n ++ r) =
      some (.int (if negative then -n else n), r) := by
  have hsigned : signed negative (Nat.toDigits 10 n) = if negative then -(n : Int) else n := by
    rw [signed, Nat.ofDigitChars_ten_toDigits]
  rw [scanUnsigned, intPart_toDigits n fun c hc => (h c hc).1]
  simp [fraction_stops h, exponent_stops h, hsigned]

/-- **An integer is read back**, where nothing follows that goes on with it. -/
theorem scanNumber_intText (F : FloatText) (n : Int) {r : List Char} (h : Stops r) :
    scanNumber F (intText n ++ r) = some (.int n, r) := by
  cases n with
  | ofNat n =>
      have hsign : scanNumber F (Nat.toDigits 10 n ++ r) =
          scanUnsigned F false (Nat.toDigits 10 n ++ r) := by
        obtain ⟨c, w, hw, hc⟩ := toDigits_cons n
        rw [hw, List.cons_append]
        unfold scanNumber
        split
        next heq => exact absurd (List.cons.inj heq).1 (ne_of_isDigit hc (by decide))
        next => rfl
      rw [intText, hsign, scanUnsigned_toDigits F false n h]
      rfl
  | negSucc n =>
      show scanUnsigned F true (Nat.toDigits 10 (n + 1) ++ r) = _
      rw [scanUnsigned_toDigits F true (n + 1) h]
      rfl

end JsonText
