/-
  ObligationRuntime.Lib.CanonicalJson — the text `json.dumps` writes of an object of
  strings, lists of strings and nulls, and that it can be read in one way only.

  A code is `Delimited` when a text that starts with a code word says which word it is
  and where it ends.  A sequence of words of such a code with a closing character is
  again delimited, and so is a sequence with separators; strings, lists and objects are
  such sequences.

  Main results:
    * `Delimited.closed`, `Delimited.items` — sequences of words,
    * `dumps_injective` — an object is determined by its text.
-/
import ObligationRuntime.Lib.JsonScan
import Mathlib.Data.List.Sort

namespace CanonicalJson

open JsonText (quote backslash shortEscape unicodeEscape hex4 readChar readUnicode readChar_plain
  readEscape_shortEscape shortEscape_eq_none readUnicode_hex4 code_cons)

/-! ## §1. Codes that say where a word ends. -/

/-- A text that starts with a word of the code starts with one word, which ends at one
place. -/
def Delimited {β : Type} (code : β → List Char) : Prop :=
  ∀ a b r r', code a ++ r = code b ++ r' → a = b ∧ r = r'

/-- The words of the code are not empty, and none starts with the character. -/
def NoneStarts {β : Type} (code : β → List Char) (c : Char) : Prop :=
  ∀ a, ∃ d w, code a = d :: w ∧ d ≠ c

/-- Words and then a closing character. -/
def closed {β : Type} (code : β → List Char) (close : Char) (xs : List β) : List Char :=
  xs.flatMap code ++ [close]

/-- Words with commas between them, and then a closing character. -/
def items {β : Type} (code : β → List Char) (close : Char) : List β → List Char
  | [] => [close]
  | x :: xs => code x ++ closed (fun y => ',' :: code y) close xs

section

variable {β : Type} {code : β → List Char} {close : Char}

/-- A code that is read back is delimited. -/
theorem Delimited.of_read (read : List Char → Option (β × List Char))
    (h : ∀ a r, read (code a ++ r) = some (a, r)) : Delimited code := by
  intro a b r r' he
  have hab := h a r
  rw [he, h b r'] at hab
  exact ⟨(Prod.mk.inj (Option.some.inj hab)).1.symm, (Prod.mk.inj (Option.some.inj hab)).2.symm⟩

/-- **Words and a closing character** that starts no word. -/
theorem Delimited.closed (hcode : Delimited code) (hclose : NoneStarts code close) :
    Delimited (closed code close) := by
  intro xs
  induction xs with
  | nil =>
      intro ys r r' he
      cases ys with
      | nil => exact ⟨rfl, by simpa [CanonicalJson.closed] using he⟩
      | cons y ys =>
          obtain ⟨d, w, hw, hd⟩ := hclose y
          simp [CanonicalJson.closed, hw] at he
          exact absurd he.1.symm hd
  | cons x xs ih =>
      intro ys r r' he
      cases ys with
      | nil =>
          obtain ⟨d, w, hw, hd⟩ := hclose x
          simp [CanonicalJson.closed, hw] at he
          exact absurd he.1 hd
      | cons y ys =>
          have he' : code x ++ (CanonicalJson.closed code close xs ++ r) =
              code y ++ (CanonicalJson.closed code close ys ++ r') := by
            simpa [CanonicalJson.closed] using he
          obtain ⟨rfl, hrest⟩ := hcode x y _ _ he'
          obtain ⟨rfl, rfl⟩ := ih ys r r' hrest
          exact ⟨rfl, rfl⟩

/-- A character in front of every word. -/
theorem Delimited.cons (hcode : Delimited code) (c : Char) : Delimited fun a => c :: code a := by
  intro a b r r' he
  exact hcode a b r r' (List.cons.inj he).2

/-- **Words with separators and a closing character.** -/
theorem Delimited.items (hcode : Delimited code) (hclose : NoneStarts code close)
    (hcomma : ',' ≠ close) : Delimited (items code close) := by
  have hrest : Delimited (CanonicalJson.closed (fun y => ',' :: code y) close) :=
    (hcode.cons ',').closed fun a => ⟨',', code a, rfl, hcomma⟩
  intro xs ys r r' he
  -- An empty list closes at once, where a word would have to start.
  cases xs with
  | nil =>
      cases ys with
      | nil => exact ⟨rfl, (List.cons.inj he).2⟩
      | cons y ys =>
          obtain ⟨d, w, hw, hd⟩ := hclose y
          simp [CanonicalJson.items, hw] at he
          exact absurd he.1.symm hd
  | cons x xs =>
      cases ys with
      | nil =>
          obtain ⟨d, w, hw, hd⟩ := hclose x
          simp [CanonicalJson.items, hw] at he
          exact absurd he.1 hd
      | cons y ys =>
          rw [CanonicalJson.items, CanonicalJson.items, List.append_assoc, List.append_assoc] at he
          obtain ⟨rfl, htail⟩ := hcode x y _ _ he
          obtain ⟨rfl, rfl⟩ := hrest xs ys r r' htail
          exact ⟨rfl, rfl⟩

/-- A word after a word. -/
theorem Delimited.pair {γ : Type} {code' : γ → List Char} (hcode : Delimited code)
    (hcode' : Delimited code') : Delimited fun p : β × γ => code p.1 ++ code' p.2 := by
  rintro ⟨a, a'⟩ ⟨b, b'⟩ r r' he
  simp only [List.append_assoc] at he
  obtain ⟨rfl, hrest⟩ := hcode a b _ _ he
  obtain ⟨rfl, rfl⟩ := hcode' a' b' r r' hrest
  exact ⟨rfl, rfl⟩

/-- A code read through an injection. -/
theorem Delimited.comp {γ : Type} {f : γ → β} (hcode : Delimited code)
    (hf : Function.Injective f) : Delimited (code ∘ f) := by
  intro a b r r' he
  obtain ⟨hab, hr⟩ := hcode (f a) (f b) r r' he
  exact ⟨hf hab, hr⟩

/-- A delimited code is injective. -/
theorem Delimited.injective (hcode : Delimited code) : Function.Injective code := by
  intro a b he
  exact (hcode a b [] [] (by simpa using he)).1

end

/-! ## §2. Strings. -/

/-- How a character stands in a string, without `ensure_ascii`. -/
def escapeChar (c : Char) : List Char :=
  match shortEscape c with
  | some d => [backslash, d]
  | none => if c.toNat < 32 then unicodeEscape c.toNat else [c]

/-- A character is read back. -/
theorem readChar_escapeChar (c : Char) (r : List Char) :
    readChar (escapeChar c ++ r) = some (c, r) := by
  unfold escapeChar
  cases hshort : shortEscape c with
  | some d => exact readEscape_shortEscape hshort r
  | none =>
      simp only
      split_ifs with hcontrol
      · show readUnicode (hex4 c.toNat ++ r) = some (c, r)
        rw [readUnicode_hex4 (by omega) (.inl (by omega)), Char.ofNat_toNat]
      · exact readChar_plain (shortEscape_eq_none hshort).2 hcontrol r

/-- The text of a character says which character it is, -/
theorem delimited_escapeChar : Delimited escapeChar := .of_read readChar readChar_escapeChar

/-- and never starts with the quotation mark. -/
theorem noneStarts_escapeChar : NoneStarts escapeChar quote := code_cons readChar_escapeChar rfl

/-- The text of a string. -/
def dumpStr (s : String) : List Char := quote :: closed escapeChar quote s.toList

/-- A string ends at its quotation mark. -/
theorem delimited_dumpStr : Delimited dumpStr :=
  ((delimited_escapeChar.closed noneStarts_escapeChar).cons quote).comp
    fun _ _ h => String.toList_injective h

/-! ## §3. Objects. -/

/-- A value of an object. -/
inductive Plain where
  | null
  | str (s : String)
  | strs (xs : List String)
  deriving DecidableEq, Repr

/-- The text of a value. -/
def Plain.dump : Plain → List Char
  | .null => ['n', 'u', 'l', 'l']
  | .str s => dumpStr s
  | .strs xs => '[' :: items dumpStr ']' xs

/-- A value says where it ends, -/
theorem delimited_dump : Delimited Plain.dump := by
  have hlist : Delimited (items dumpStr ']') :=
    delimited_dumpStr.items (fun s => ⟨quote, _, rfl, by decide⟩) (by decide)
  intro a b r r' he
  -- The first character tells the three forms apart.
  cases a with
  | null =>
      cases b with
      | null => exact ⟨rfl, by simpa [Plain.dump] using he⟩
      | str s => exact absurd (List.cons.inj he).1 (by decide)
      | strs xs => exact absurd (List.cons.inj he).1 (by decide)
  | str s =>
      cases b with
      | null => exact absurd (List.cons.inj he).1 (by decide)
      | str s' =>
          obtain ⟨rfl, hr⟩ := delimited_dumpStr s s' r r' he
          exact ⟨rfl, hr⟩
      | strs xs => exact absurd (List.cons.inj he).1 (by decide)
  | strs xs =>
      cases b with
      | null => exact absurd (List.cons.inj he).1 (by decide)
      | str s => exact absurd (List.cons.inj he).1 (by decide)
      | strs xs' =>
          obtain ⟨rfl, hr⟩ := hlist xs xs' r r' (List.cons.inj he).2
          exact ⟨rfl, hr⟩

/-- The text of a member. -/
def dumpMember (m : String × Plain) : List Char := dumpStr m.1 ++ ':' :: m.2.dump

/-- and so does a member. -/
theorem delimited_dumpMember : Delimited dumpMember :=
  delimited_dumpStr.pair (delimited_dump.cons ':')

/-- `json.dumps(.., separators=(",", ":"), ensure_ascii=False)` of an object. -/
def dumps (d : List (String × Plain)) : String :=
  String.ofList ('\x7b' :: items dumpMember '\x7d' d)

/-- **An object is determined by its text.** -/
theorem dumps_injective : Function.Injective dumps := by
  intro d d' h
  have hitems : Delimited (items dumpMember '\x7d') :=
    delimited_dumpMember.items (fun m => ⟨quote, _, rfl, by decide⟩) (by decide)
  have htext := congrArg String.toList h
  simp only [dumps, String.toList_ofList] at htext
  exact hitems.injective (List.cons.inj htext).2

/-- `canonical_dumps`: with `sort_keys=True`. -/
def canonicalDumps (d : List (String × Plain)) : String :=
  dumps (d.insertionSort fun m m' => m.1 ≤ m'.1)

example : canonicalDumps [("b", .str "x\n"), ("a", .strs ["1", "2"]), ("c", .null)] =
    "\x7b\"a\":[\"1\",\"2\"],\"b\":\"x\\n\",\"c\":null\x7d" := by decide

end CanonicalJson
