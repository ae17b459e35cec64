/-
  ObligationRuntime.Lib.JsonText — `json.dumps` and `json.loads`.

  A value is written with one pair of separators, and read with white space wherever the
  grammar has it; where a key comes twice the later member counts.  The reader is given
  fuel, one for each value and each element it goes into.

  Main results:
    * `loads_dumps` — a value without floats, and with unique keys, is read back,
    * `printable_dump` — what is written is printable ASCII,
    * `load_blank` — white space in front makes no difference.
-/
import ObligationRuntime.Lib.JsonScan
import ObligationRuntime.Lib.KeyOrder

namespace JsonText

open Py

/-! ## §1. The writer. -/

/-- The spaces after a comma, and after a colon. -/
structure Separators where
  comma : Nat
  colon : Nat

/-- `separators=(",", ":")`. -/
def compact : Separators := ⟨0, 0⟩

/-- `separators=(", ", ": ")`. -/
def spaced : Separators := ⟨1, 1⟩

/-- Some spaces. -/
def spaces (n : Nat) : List Char := List.replicate n ' '

section Writer

variable (F : FloatText) (sep : Separators)

mutual
/-- `json.dumps`. -/
def dump : Json → List Char
  | .null => ['n', 'u', 'l', 'l']
  | .bool true => ['t', 'r', 'u', 'e']
  | .bool false => ['f', 'a', 'l', 's', 'e']
  | .int n => intText n
  | .flt q => F.repr q
  | .str s => dumpStr s
  | .arr xs => '[' :: dumpItems xs
  | .obj d => '\x7b' :: dumpMembers d
/-- The elements of a list, and the bracket that closes it. -/
def dumpItems : List Json → List Char
  | [] => [']']
  | [x] => dump x ++ [']']
  | x :: y :: xs => dump x ++ ',' :: (spaces sep.comma ++ dumpItems (y :: xs))
/-- The members of a mapping, and the brace that closes it. -/
def dumpMembers : List (String × Json) → List Char
  | [] => ['\x7d']
  | [(k, v)] => dumpStr k ++ ':' :: (spaces sep.colon ++ (dump v ++ ['\x7d']))
  | (k, v) :: m :: d =>
      dumpStr k ++ ':' :: (spaces sep.colon ++ (dump v ++ ',' ::
        (spaces sep.comma ++ dumpMembers (m :: d))))
end

/-- `json.dumps`. -/
def dumps (v : Json) : String := String.ofList (dump F sep v)

end Writer

/-! ## §2. The reader. -/

section Reader

variable (F : FloatText)

/-- What follows a word. -/
def dropWord : List Char → List Char → Option (List Char)
  | [], cs => some cs
  | _ :: _, [] => none
  | w :: ws, c :: cs => if w = c then dropWord ws cs else none

/-- The words of the grammar. -/
def words : List (List Char × Json) :=
  let nan := ['N', 'a', 'N']
  let infinity := ['I', 'n', 'f', 'i', 'n', 'i', 't', 'y']
  [(['n', 'u', 'l', 'l'], .null), (['t', 'r', 'u', 'e'], .bool true),
    (['f', 'a', 'l', 's', 'e'], .bool false), (nan, F.parse nan), (infinity, F.parse infinity),
    ('-' :: infinity, F.parse ('-' :: infinity))]

/-- A word, or a number. -/
def scanLiteral (cs : List Char) : Option (Json × List Char) :=
  match (words F).findSome? fun w => (dropWord w.1 cs).map fun r => (w.2, r) with
  | some p => some p
  | none => scanNumber F cs

/-- A key. -/
def scanKey : List Char → Option (String × List Char)
  | [] => none
  | c :: cs => if c = quote then scanString cs else none

/-- The colon after a key, with the white space around it. -/
def scanColon (cs : List Char) : Option (List Char) :=
  match skipBlanks cs with
  | ':' :: r => some (skipBlanks r)
  | _ => none

mutual
/-- `scan_once`. -/
def scanOnce : Nat → List Char → Option (Json × List Char)
  | 0, _ => none
  | _ + 1, [] => none
  | n + 1, c :: r =>
      if c = quote then (scanString r).map fun p => (.str p.1, p.2)
      else if c = '[' then
        match skipBlanks r with
        | ']' :: r => some (.arr [], r)
        | r => (scanItems n r).map fun p => (.arr p.1, p.2)
      else if c = '\x7b' then
        match skipBlanks r with
        | '\x7d' :: r => some (.obj [], r)
        | r => (scanMembers n [] r).map fun p => (.obj p.1, p.2)
      else scanLiteral F (c :: r)
/-- The elements of a list, up to its bracket. -/
def scanItems : Nat → List Char → Option (List Json × List Char)
  | 0, _ => none
  | n + 1, cs => do
      let (x, r) ← scanOnce n cs
      match skipBlanks r with
      | ']' :: r => return ([x], r)
      | ',' :: r => do
          let (xs, r) ← scanItems n (skipBlanks r)
          return (x :: xs, r)
      | _ => none
/-- The members of a mapping, up to its brace; `d` has those read so far. -/
def scanMembers : Nat → Dict → List Char → Option (Dict × List Char)
  | 0, _, _ => none
  | n + 1, d, cs => do
      let (k, r) ← scanKey cs
      let r ← scanColon r
      let (v, r) ← scanOnce n r
      match skipBlanks r with
      | '\x7d' :: r => return (d.set k v, r)
      | ',' :: r => scanMembers n (d.set k v) (skipBlanks r)
      | _ => none
end

/-- `json.loads`, on a text as its characters. -/
def load (cs : List Char) : Except PyError Json :=
  match scanOnce F (2 * cs.length) (skipBlanks cs) with
  | some (v, r) => if skipBlanks r = [] then .ok v else .error (.valueError "JSONDecodeError")
  | none => .error (.valueError "JSONDecodeError")

/-- `json.loads`. -/
def loads (s : String) : Except PyError Json := load F s.toList

end Reader

/-! ## §3. What is written. -/

section Printable

variable {F : FloatText} {sep : Separators}

/-- All that is written is printable: a digit, -/
theorem printable_digitChar : ∀ n < 16, printable (Nat.digitChar n) = true := by decide

/-- four of them, -/
theorem printable_hex4 {n : Nat} (h : n < 65536) : (hex4 n).all printable = true := by
  have h1 := printable_digitChar (n / 4096) (by omega)
  have h2 := printable_digitChar (n / 256 % 16) (by omega)
  have h3 := printable_digitChar (n / 16 % 16) (by omega)
  have h4 := printable_digitChar (n % 16) (by omega)
  simp [hex4, h1, h2, h3, h4]

/-- an escape by number, -/
theorem printable_unicodeEscape {n : Nat} (h : n < 65536) :
    (unicodeEscape n).all printable = true := by
  show (printable backslash && (printable 'u' && (hex4 n).all printable)) = true
  rw [printable_hex4 h]
  decide

/-- a short one, -/
theorem printable_shortEscape {c d : Char} (h : shortEscape c = some d) :
    printable d = true := by
  unfold shortEscape at h
  split_ifs at h
  all_goals
    cases h
    rfl

/-- a character, -/
theorem printable_escapeChar (c : Char) : (escapeChar c).all printable = true := by
  have hlast := (toNat_scalar c).1
  unfold escapeChar
  cases hshort : shortEscape c with
  | some d =>
      show (printable backslash && (printable d && true)) = true
      rw [printable_shortEscape hshort]
      decide
  | none =>
      simp only
      split_ifs with hp hbmp
      · simpa using hp
      · exact printable_unicodeEscape hbmp
      · have hhigh : highSurrogate c.toNat < 65536 := by
          unfold highSurrogate
          omega
        have hlow : lowSurrogate c.toNat < 65536 := by
          unfold lowSurrogate
          omega
        rw [List.all_append, printable_unicodeEscape hhigh, printable_unicodeEscape hlow]
        rfl

/-- a string, -/
theorem printable_dumpStr (s : String) : (dumpStr s).all printable = true := by
  have hchars : (s.toList.flatMap escapeChar).all printable = true := by
    rw [List.all_flatMap, List.all_eq_true]
    intro c _
    exact printable_escapeChar c
  show (printable quote && (s.toList.flatMap escapeChar ++ [quote]).all printable) = true
  rw [List.all_append, hchars]
  decide

/-- a number, -/
theorem printable_toDigits (n : Nat) : (Nat.toDigits 10 n).all printable = true := by
  rw [List.all_eq_true]
  intro c hc
  have hdigit := isDigit_toDigits n c hc
  simp only [Char.isDigit, Bool.and_eq_true, decide_eq_true_eq] at hdigit
  have h1 : 48 ≤ c.toNat := hdigit.1
  have h2 : c.toNat ≤ 57 := hdigit.2
  simp only [printable, Bool.and_eq_true, decide_eq_true_eq]
  omega

/-- one with a sign, -/
theorem printable_intText (n : Int) : (intText n).all printable = true := by
  cases n with
  | ofNat n => exact printable_toDigits n
  | negSucc n =>
      show (printable '-' && (Nat.toDigits 10 (n + 1)).all printable) = true
      rw [printable_toDigits]
      decide

/-- and the blanks between. -/
theorem printable_spaces (n : Nat) : (spaces n).all printable = true := by
  rw [spaces, List.all_eq_true]
  intro c hc
  rw [List.eq_of_mem_replicate hc]
  decide

mutual
/-- **What is written is printable ASCII.** -/
theorem printable_dump : ∀ v, (dump F sep v).all printable = true
  | .null => by rfl
  | .bool true => by rfl
  | .bool false => by rfl
  | .int n => printable_intText n
  | .flt q => F.repr_printable q
  | .str s => printable_dumpStr s
  | .arr xs => by
      show (printable '[' && (dumpItems F sep xs).all printable) = true
      rw [printable_dumpItems xs]
      rfl
  | .obj d => by
      show (printable '\x7b' && (dumpMembers F sep d).all printable) = true
      rw [printable_dumpMembers d]
      rfl
/-- The elements of a list are, -/
theorem printable_dumpItems : ∀ xs, (dumpItems F sep xs).all printable = true
  | [] => by rfl
  | [x] => by
      rw [dumpItems, List.all_append, printable_dump x]
      rfl
  | x :: y :: xs => by
      rw [dumpItems, List.all_append, printable_dump x, List.all_cons, List.all_append,
        printable_spaces, printable_dumpItems (y :: xs)]
      rfl
/-- and the members of a mapping. -/
theorem printable_dumpMembers : ∀ d, (dumpMembers F sep d).all printable = true
  | [] => by rfl
  | [(k, v)] => by
      rw [dumpMembers, List.all_append, printable_dumpStr k, List.all_cons, List.all_append,
        printable_spaces, List.all_append, printable_dump v]
      rfl
  | (k, v) :: m :: d => by
      rw [dumpMembers, List.all_append, printable_dumpStr k, List.all_cons, List.all_append,
        printable_spaces, List.all_append, printable_dump v, List.all_cons,
        List.all_append, printable_spaces, printable_dumpMembers (m :: d)]
      rfl
end

end Printable

/-! ## §4. What is written is read back. -/

section Roundtrip

variable {F : FloatText} {sep : Separators}

/-- The blanks between are skipped, -/
theorem skipBlanks_spaces (n : Nat) (cs : List Char) :
    skipBlanks (spaces n ++ cs) = skipBlanks cs := by
  induction n with
  | zero => rfl
  | succ n ih =>
      show skipBlanks (' ' :: (spaces n ++ cs)) = skipBlanks cs
      rw [skipBlanks, List.dropWhile_cons_of_pos (by decide)]
      exact ih

/-- and nothing else. -/
theorem skipBlanks_cons {c : Char} (h : isBlank c = false) (cs : List Char) :
    skipBlanks (c :: cs) = c :: cs := by
  exact List.dropWhile_cons_of_neg (by simp [h])

/-- What a value starts with: no white space, and no bracket that closes. -/
def Opens (c : Char) : Prop := isBlank c = false ∧ c ≠ ']'

/-- A digit opens a value. -/
theorem opens_digit {c : Char} (h : c.isDigit = true) : Opens c := by
  constructor
  · rw [Bool.eq_false_iff]
    intro hb
    simp only [isBlank, Bool.or_eq_true, decide_eq_true_eq] at hb
    rcases hb with ((rfl | rfl) | rfl) | rfl <;> exact absurd h (by decide)
  · rintro rfl
    exact absurd h (by decide)

variable (F sep) in
/-- A value without floats starts with a character. -/
theorem dump_opens {v : Json} (h : v.integral = true) :
    ∃ c w, dump F sep v = c :: w ∧ Opens c := by
  cases v with
  | null => exact ⟨'n', _, rfl, by decide, by decide⟩
  | bool b => cases b <;> exact ⟨_, _, rfl, by decide, by decide⟩
  | int i =>
      obtain ⟨c, w, hw, hc⟩ := intText_cons i
      refine ⟨c, w, hw, ?_⟩
      rcases hc with hdigit | rfl
      · exact opens_digit hdigit
      · exact ⟨by decide, by decide⟩
  | flt q => cases h
  | str s => exact ⟨quote, _, rfl, by decide, by decide⟩
  | arr xs => exact ⟨'[', _, rfl, by decide, by decide⟩
  | obj d => exact ⟨'\x7b', _, rfl, by decide, by decide⟩

/-- A character that no number goes on with stops it: -/
theorem stops_cons {c : Char} (hdigit : c.isDigit = false) (hdot : c ≠ '.') (he : c ≠ 'e')
    (hE : c ≠ 'E') (r : List Char) : Stops (c :: r) := by
  intro d hd
  cases hd
  exact ⟨hdigit, hdot, he, hE⟩

/-- a comma, -/
theorem stops_comma (r : List Char) : Stops (',' :: r) :=
  stops_cons (by decide) (by decide) (by decide) (by decide) r

/-- a bracket, -/
theorem stops_bracket (r : List Char) : Stops (']' :: r) :=
  stops_cons (by decide) (by decide) (by decide) (by decide) r

/-- a brace. -/
theorem stops_brace (r : List Char) : Stops ('\x7d' :: r) :=
  stops_cons (by decide) (by decide) (by decide) (by decide) r

variable (F) in
/-- An integer is no word. -/
theorem scanLiteral_intText (n : Int) {r : List Char} (h : Stops r) :
    scanLiteral F (intText n ++ r) = some (.int n, r) := by
  have hword : ((words F).findSome? fun w =>
      (dropWord w.1 (intText n ++ r)).map fun r => (w.2, r)) = none := by
    have hne : ∀ {c d : Char}, c.isDigit = true → d.isDigit = false → ¬ d = c :=
      fun hc hd => (ne_of_isDigit hc hd).symm
    cases n with
    | ofNat n =>
        obtain ⟨c, w, hw, hc⟩ := toDigits_cons n
        simp [words, intText, hw, dropWord, hne hc]
    | negSucc n =>
        obtain ⟨c, w, hw, hc⟩ := toDigits_cons (n + 1)
        simp [words, intText, hw, dropWord, hne hc]
  rw [scanLiteral, hword]
  exact scanNumber_intText F n h

/-- A value that is no string, list or mapping is scanned as a word or a number. -/
theorem scanOnce_literal {n : Nat} {c : Char} (hq : c ≠ quote) (ha : c ≠ '[') (ho : c ≠ '\x7b')
    (r : List Char) : scanOnce F (n + 1) (c :: r) = scanLiteral F (c :: r) := by
  rw [scanOnce, if_neg hq, if_neg ha, if_neg ho]

variable (F sep) in
/-- The elements of a list open with the first, -/
theorem dumpItems_opens {x : Json} (xs : List Json) (h : x.integral = true) :
    ∃ c w, dumpItems F sep (x :: xs) = c :: w ∧ Opens c := by
  obtain ⟨c, w, hw, hc⟩ := dump_opens F sep h
  cases xs with
  | nil => exact ⟨c, w ++ [']'], by rw [dumpItems, hw]; rfl, hc⟩
  | cons y xs => exact ⟨c, _, by rw [dumpItems, hw]; rfl, hc⟩

variable (F sep) in
/-- and the members of a mapping with a key. -/
theorem dumpMembers_quote (k : String) (v : Json) (d : List (String × Json)) :
    ∃ w, dumpMembers F sep ((k, v) :: d) = quote :: w := by
  cases d with
  | nil => exact ⟨_, by rw [dumpMembers]; rfl⟩
  | cons m d => exact ⟨_, by rw [dumpMembers]; rfl⟩

theorem skipBlanks_opens {cs w : List Char} {c : Char} (h : cs = c :: w) (hc : isBlank c = false) :
    skipBlanks cs = cs := by
  subst h
  exact skipBlanks_cons hc w

/-- A new member goes last. -/
theorem set_new {d : Dict} {k : String} (h : k ∉ Dict.keys d) (v : Json) :
    Dict.set d k v = d ++ [(k, v)] := by
  induction d with
  | nil => rfl
  | cons m d ih =>
      obtain ⟨k', w⟩ := m
      have hk : k' ≠ k := fun he => h (by simp [Dict.keys, he])
      have hd : k ∉ Dict.keys d := fun hmem => h (List.mem_cons_of_mem _ hmem)
      rw [Dict.set, if_neg hk, ih hd]
      rfl

/-- The next key of unique ones is new. -/
theorem key_new {acc d : Dict} {k : String} {v : Json}
    (h : (Dict.keys (acc ++ (k, v) :: d)).Nodup) : k ∉ Dict.keys acc := by
  intro hk
  rw [Dict.keys, List.map_append] at h
  exact (List.nodup_append.mp h).2.2 k hk k (List.mem_cons_self ..) rfl

/-- A key and its colon are read, and then the value. -/
theorem scanMembers_dumpStr {n : Nat} {acc : Dict} {k : String} {v : Json} {c : Char}
    {w r : List Char}
    (hw : dump F sep v = c :: w) (hc : isBlank c = false)
    (hread : scanOnce F n (dump F sep v ++ r) = some (v, r)) :
    scanMembers F (n + 1) acc (dumpStr k ++ ':' :: (spaces sep.colon ++ (dump F sep v ++ r))) =
      match skipBlanks r with
      | '\x7d' :: r => some (acc.set k v, r)
      | ',' :: r => scanMembers F n (acc.set k v) (skipBlanks r)
      | _ => none := by
  have hkey : scanKey (dumpStr k ++ ':' :: (spaces sep.colon ++ (dump F sep v ++ r))) =
      some (k, ':' :: (spaces sep.colon ++ (dump F sep v ++ r))) := by
    have hdump : dumpStr k ++ ':' :: (spaces sep.colon ++ (dump F sep v ++ r)) =
        quote :: (k.toList.flatMap escapeChar ++
          quote :: ':' :: (spaces sep.colon ++ (dump F sep v ++ r))) := by
      simp [dumpStr]
    rw [hdump, scanKey, if_pos rfl]
    exact scanString_dumpStr k _
  -- The blank that some writers put behind the colon is skipped.
  have hcolon : scanColon (':' :: (spaces sep.colon ++ (dump F sep v ++ r))) =
      some (dump F sep v ++ r) := by
    rw [scanColon, skipBlanks_cons (by decide)]
    show some (skipBlanks (spaces sep.colon ++ (dump F sep v ++ r))) = _
    rw [skipBlanks_spaces, skipBlanks_opens (w := w ++ r) (by rw [hw]; rfl) hc]
  rw [scanMembers]
  simp only [hkey, hcolon, hread, Option.bind_eq_bind, Option.bind_some]
  rfl

/-- An integer is neither a string, nor a list, nor a mapping. -/
theorem scanOnce_int (i : Int) (n : Nat) {r : List Char} (hr : Stops r) :
    scanOnce F (n + 1) (intText i ++ r) = some (.int i, r) := by
  obtain ⟨c, w, hw, hc⟩ := intText_cons i
  have hother : ∀ d : Char, d.isDigit = false → d ≠ '-' → c ≠ d := by
    intro d hd hminus
    rcases hc with hdigit | rfl
    · exact ne_of_isDigit hdigit hd
    · exact hminus.symm
  rw [← scanLiteral_intText F i hr, hw, List.cons_append]
  apply scanOnce_literal
  · exact hother quote (by decide) (by decide)
  · exact hother '[' (by decide) (by decide)
  · exact hother '\x7b' (by decide) (by decide)

theorem scanOnce_str (s : String) (n : Nat) (r : List Char) :
    scanOnce F (n + 1) (dumpStr s ++ r) = some (.str s, r) := by
  have htext : dumpStr s ++ r = quote :: (s.toList.flatMap escapeChar ++ quote :: r) := by
    simp [dumpStr]
  rw [htext, scanOnce, if_pos rfl, scanString_dumpStr]
  rfl

/-- A list is read, where its elements are. -/
theorem scanOnce_arr {x : Json} {xs : List Json} {n : Nat} {r : List Char}
    (hx : x.integral = true)
    (hread : scanItems F n (dumpItems F sep (x :: xs) ++ r) = some (x :: xs, r)) :
    scanOnce F (n + 1) ('[' :: (dumpItems F sep (x :: xs) ++ r)) = some (.arr (x :: xs), r) := by
  obtain ⟨c, w, hw, hc⟩ := dumpItems_opens F sep xs hx
  have hskip : skipBlanks (dumpItems F sep (x :: xs) ++ r) = dumpItems F sep (x :: xs) ++ r :=
    skipBlanks_opens (w := w ++ r) (by rw [hw]; rfl) hc.1
  rw [scanOnce, if_neg (by decide), if_pos rfl, hskip]
  rw [hw, List.cons_append] at hread ⊢
  split
  next heq => exact absurd (List.cons.inj heq).1 hc.2
  next => rw [hread]; rfl

/-- A mapping is read, where its members are. -/
theorem scanOnce_obj {k : String} {v : Json} {d : Dict} {n : Nat} {r : List Char}
    (hread : scanMembers F n [] (dumpMembers F sep ((k, v) :: d) ++ r) = some ((k, v) :: d, r)) :
    scanOnce F (n + 1) ('\x7b' :: (dumpMembers F sep ((k, v) :: d) ++ r)) =
      some (.obj ((k, v) :: d), r) := by
  obtain ⟨w, hw⟩ := dumpMembers_quote F sep k v d
  have hskip : skipBlanks (dumpMembers F sep ((k, v) :: d) ++ r) =
      dumpMembers F sep ((k, v) :: d) ++ r :=
    skipBlanks_opens (w := w ++ r) (by rw [hw]; rfl) (by decide)
  rw [scanOnce, if_neg (by decide), if_neg (by decide), if_pos rfl, hskip]
  rw [hw, List.cons_append] at hread ⊢
  split
  next heq => exact absurd (List.cons.inj heq).1 (by decide)
  next => rw [hread]; rfl

mutual
/-- **A value is read back**, by enough fuel and before anything a number stops at. -/
theorem scanOnce_dump : ∀ (v : Json), v.UniqueKeys → v.all Json.integral = true →
    ∀ {r : List Char} {n : Nat}, Stops r → 2 * (dump F sep v).length ≤ n →
      scanOnce F n (dump F sep v ++ r) = some (v, r)
  -- Every form uses one unit of fuel for itself and leaves the rest to its parts.
  | .null, _, _, r, n, _, hn => by
      obtain ⟨m, rfl⟩ : ∃ m, n = m + 1 := ⟨n - 1, by simp [dump] at hn; omega⟩
      exact (scanOnce_literal (by decide) (by decide) (by decide) _).trans rfl
  | .bool true, _, _, r, n, _, hn => by
      obtain ⟨m, rfl⟩ : ∃ m, n = m + 1 := ⟨n - 1, by simp [dump] at hn; omega⟩
      exact (scanOnce_literal (by decide) (by decide) (by decide) _).trans rfl
  | .bool false, _, _, r, n, _, hn => by
      obtain ⟨m, rfl⟩ : ∃ m, n = m + 1 := ⟨n - 1, by simp [dump] at hn; omega⟩
      exact (scanOnce_literal (by decide) (by decide) (by decide) _).trans rfl
  | .int i, _, _, r, n, hr, hn => by
      obtain ⟨c, w, hw, -⟩ := intText_cons i
      have hlen : 2 * (intText i).length ≤ n := hn
      rw [hw, List.length_cons] at hlen
      obtain ⟨m, rfl⟩ : ∃ m, n = m + 1 := ⟨n - 1, by omega⟩
      exact scanOnce_int i m hr
  | .flt q, _, hi, r, n, _, _ => by cases hi
  | .str s, _, _, r, n, _, hn => by
      obtain ⟨m, rfl⟩ : ∃ m, n = m + 1 := ⟨n - 1, by simp [dump, dumpStr] at hn; omega⟩
      exact scanOnce_str s m r
  | .arr [], _, _, r, n, _, hn => by
      obtain ⟨m, rfl⟩ : ∃ m, n = m + 1 := ⟨n - 1, by simp [dump] at hn; omega⟩
      rfl
  | .arr (x :: xs), hk, hi, r, n, _, hn => by
      obtain ⟨m, rfl⟩ : ∃ m, n = m + 1 := ⟨n - 1, by simp [dump] at hn; omega⟩
      have hitems : Json.allList Json.integral (x :: xs) = true := Json.allList_of_arr hi
      have hfirst : x.integral = true := Json.all_self (Bool.and_eq_true_iff.mp hitems).1
      apply scanOnce_arr hfirst
      apply scanItems_dump x xs (Json.uniqueKeys_arr.mp hk) hitems
      simp only [dump, List.length_cons] at hn
      omega
  | .obj [], _, _, r, n, _, hn => by
      obtain ⟨m, rfl⟩ : ∃ m, n = m + 1 := ⟨n - 1, by simp [dump] at hn; omega⟩
      rfl
  | .obj ((k, v) :: d), hk, hi, r, n, _, hn => by
      obtain ⟨m, rfl⟩ : ∃ m, n = m + 1 := ⟨n - 1, by simp [dump] at hn; omega⟩
      obtain ⟨hnodup, hkeys⟩ := Json.uniqueKeys_obj.mp hk
      apply scanOnce_obj
      apply scanMembers_dump k v d hkeys (Json.allDict_of_obj hi) [] hnodup
      simp only [dump, List.length_cons] at hn
      omega
termination_by v => sizeOf v
theorem scanItems_dump : ∀ (x : Json) (xs : List Json),
    Json.allList Json.keysUnique (x :: xs) = true → Json.allList Json.integral (x :: xs) = true →
    ∀ {r : List Char} {n : Nat}, 2 * (dumpItems F sep (x :: xs)).length ≤ n →
      scanItems F n (dumpItems F sep (x :: xs) ++ r) = some (x :: xs, r)
  -- After the first item comes the closing bracket, or a comma and the rest.
  | x, [], hk, hi, r, n, hn => by
      rw [dumpItems, List.length_append, List.length_singleton] at hn
      obtain ⟨m, rfl⟩ : ∃ m, n = m + 1 := ⟨n - 1, by omega⟩
      have hread := scanOnce_dump x (Bool.and_eq_true_iff.mp hk).1 (Bool.and_eq_true_iff.mp hi).1
        (r := ']' :: r) (n := m) (stops_bracket r) (by omega)
      rw [dumpItems, List.append_assoc, List.singleton_append, scanItems, hread]
      rfl
  | x, y :: xs, hk, hi, r, n, hn => by
      rw [dumpItems, List.length_append, List.length_cons, List.length_append] at hn
      obtain ⟨m, rfl⟩ : ∃ m, n = m + 1 := ⟨n - 1, by omega⟩
      obtain ⟨hkx, hks⟩ := Bool.and_eq_true_iff.mp hk
      obtain ⟨hix, his⟩ := Bool.and_eq_true_iff.mp hi
      have hsecond : y.integral = true := Json.all_self (Bool.and_eq_true_iff.mp his).1
      obtain ⟨c, w, hw, hc⟩ := dumpItems_opens F sep xs hsecond
      have hread := scanOnce_dump x hkx hix
        (r := ',' :: (spaces sep.comma ++ (dumpItems F sep (y :: xs) ++ r))) (n := m)
        (stops_comma _) (by omega)
      have hrest := scanItems_dump y xs hks his (r := r) (n := m) (by omega)
      have hskip : skipBlanks (dumpItems F sep (y :: xs) ++ r) = dumpItems F sep (y :: xs) ++ r :=
        skipBlanks_opens (w := w ++ r) (by rw [hw]; rfl) hc.1
      rw [dumpItems, List.append_assoc, List.cons_append, List.append_assoc, scanItems, hread]
      show (scanItems F m (skipBlanks (spaces sep.comma ++ _))).bind _ = _
      rw [skipBlanks_spaces, hskip, hrest]
      rfl
termination_by x xs => sizeOf (x :: xs)
theorem scanMembers_dump : ∀ (k : String) (v : Json) (d : List (String × Json)),
    Json.allDict Json.keysUnique ((k, v) :: d) = true →
    Json.allDict Json.integral ((k, v) :: d) = true →
    ∀ (acc : Dict) {r : List Char} {n : Nat}, (Dict.keys (acc ++ (k, v) :: d)).Nodup →
      2 * (dumpMembers F sep ((k, v) :: d)).length ≤ n →
      scanMembers F n acc (dumpMembers F sep ((k, v) :: d) ++ r) = some (acc ++ (k, v) :: d, r)
  | k, v, [], hk, hi, acc, r, n, hnodup, hn => by
      simp only [dumpMembers, List.length_append, List.length_cons] at hn
      obtain ⟨m, rfl⟩ : ∃ m, n = m + 1 := ⟨n - 1, by omega⟩
      have hiv := (Bool.and_eq_true_iff.mp hi).1
      obtain ⟨c, w, hw, hc⟩ := dump_opens F sep (Json.all_self hiv)
      have hread := scanOnce_dump v (Bool.and_eq_true_iff.mp hk).1 hiv
        (r := '\x7d' :: r) (n := m) (stops_brace r) (by omega)
      have htext : dumpMembers F sep [(k, v)] ++ r =
          dumpStr k ++ ':' :: (spaces sep.colon ++ (dump F sep v ++ '\x7d' :: r)) := by
        simp [dumpMembers]
      rw [htext, scanMembers_dumpStr hw hc.1 hread, skipBlanks_cons (by decide),
        set_new (key_new hnodup)]
      rfl
  | k, v, (k', v') :: d, hk, hi, acc, r, n, hnodup, hn => by
      simp only [dumpMembers, List.length_append, List.length_cons] at hn
      obtain ⟨m, rfl⟩ : ∃ m, n = m + 1 := ⟨n - 1, by omega⟩
      obtain ⟨hkv, hkd⟩ := Bool.and_eq_true_iff.mp hk
      obtain ⟨hiv, hid⟩ := Bool.and_eq_true_iff.mp hi
      obtain ⟨c, w, hw, hc⟩ := dump_opens F sep (Json.all_self hiv)
      obtain ⟨w', hw'⟩ := dumpMembers_quote F sep k' v' d
      have hread := scanOnce_dump v hkv hiv
        (r := ',' :: (spaces sep.comma ++ (dumpMembers F sep ((k', v') :: d) ++ r))) (n := m)
        (stops_comma _) (by omega)
      -- The member goes to the end of what was read: its key is new there.
      have hmore : (Dict.keys ((acc ++ [(k, v)]) ++ (k', v') :: d)).Nodup := by
        rwa [List.append_assoc]
      have hrest := scanMembers_dump k' v' d hkd hid (acc ++ [(k, v)]) (r := r) (n := m)
        hmore (by omega)
      have hskip : skipBlanks (dumpMembers F sep ((k', v') :: d) ++ r) =
          dumpMembers F sep ((k', v') :: d) ++ r :=
        skipBlanks_opens (w := w' ++ r) (by rw [hw']; rfl) (by decide)
      have htext : dumpMembers F sep ((k, v) :: (k', v') :: d) ++ r =
          dumpStr k ++ ':' :: (spaces sep.colon ++ (dump F sep v ++
            ',' :: (spaces sep.comma ++ (dumpMembers F sep ((k', v') :: d) ++ r)))) := by
        simp [dumpMembers]
      rw [htext, scanMembers_dumpStr hw hc.1 hread, skipBlanks_cons (by decide),
        set_new (key_new hnodup)]
      show scanMembers F m _ (skipBlanks (spaces sep.comma ++ _)) = _
      rw [skipBlanks_spaces, hskip, hrest, List.append_assoc]
      rfl
termination_by k v d => sizeOf ((k, v) :: d)
end

/-- **A value without floats is read back**, where its keys are unique. -/
theorem load_dump {v : Json} (hkeys : v.UniqueKeys) (hint : v.all Json.integral = true) :
    load F (dump F sep v) = .ok v := by
  obtain ⟨c, w, hw, hc⟩ := dump_opens F sep (Json.all_self hint)
  have hread : scanOnce F (2 * (dump F sep v).length) (dump F sep v ++ []) = some (v, []) :=
    scanOnce_dump v hkeys hint (fun c hc => by cases hc) (Nat.le_refl _)
  rw [List.append_nil] at hread
  rw [load, skipBlanks_opens hw hc.1, hread]
  rfl

/-- **`json.loads` reads back what `json.dumps` writes.** -/
theorem loads_dumps {v : Json} (hkeys : v.UniqueKeys) (hint : v.all Json.integral = true) :
    loads F (dumps F sep v) = .ok v := by
  rw [loads, dumps, String.toList_ofList]
  exact load_dump hkeys hint

end Roundtrip

/-! ## §5. Fuel. -/

section Fuel

variable {F : FloatText}

/-- A value is read alike, where its elements and its members are. -/
theorem scanOnce_step {n m : Nat}
    (hitems : ∀ cs p, scanItems F n cs = some p → scanItems F m cs = some p)
    (hmembers : ∀ d cs p, scanMembers F n d cs = some p → scanMembers F m d cs = some p)
    (cs : List Char) (p : Json × List Char) (h : scanOnce F (n + 1) cs = some p) :
    scanOnce F (m + 1) cs = some p := by
  cases cs with
  | nil =>
      rw [scanOnce] at h
      cases h
  | cons c r =>
      rw [scanOnce] at h ⊢
      split_ifs at h ⊢ with hq ha ho
      · exact h
      · split at h
        next => exact h
        next =>
          obtain ⟨q, hq, rfl⟩ := Option.map_eq_some_iff.mp h
          rw [hitems _ _ hq]
          rfl
      · split at h
        next => exact h
        next =>
          obtain ⟨q, hq, rfl⟩ := Option.map_eq_some_iff.mp h
          rw [hmembers _ _ _ hq]
          rfl
      · exact h

/-- Elements are read alike, where each value and what follows it are. -/
theorem scanItems_step {n m : Nat}
    (hvalue : ∀ cs p, scanOnce F n cs = some p → scanOnce F m cs = some p)
    (hitems : ∀ cs p, scanItems F n cs = some p → scanItems F m cs = some p)
    (cs : List Char) (p : List Json × List Char) (h : scanItems F (n + 1) cs = some p) :
    scanItems F (m + 1) cs = some p := by
  rw [scanItems] at h ⊢
  obtain ⟨⟨x, r⟩, hx, h⟩ := Option.bind_eq_some_iff.mp h
  simp only [Option.bind_eq_bind, hvalue _ _ hx, Option.bind_some]
  dsimp only at h
  split at h
  next heq => simpa [heq] using h
  next heq =>
    obtain ⟨q, hq, h⟩ := Option.bind_eq_some_iff.mp h
    simpa [heq, hitems _ _ hq] using h
  next => cases h

/-- Members are read alike, where each value and what follows it are. -/
theorem scanMembers_step {n m : Nat}
    (hvalue : ∀ cs p, scanOnce F n cs = some p → scanOnce F m cs = some p)
    (hmembers : ∀ d cs p, scanMembers F n d cs = some p → scanMembers F m d cs = some p)
    (d : Dict) (cs : List Char) (p : Dict × List Char)
    (h : scanMembers F (n + 1) d cs = some p) : scanMembers F (m + 1) d cs = some p := by
  rw [scanMembers] at h ⊢
  obtain ⟨⟨k, r⟩, hk, h⟩ := Option.bind_eq_some_iff.mp h
  obtain ⟨r', hr', h⟩ := Option.bind_eq_some_iff.mp h
  obtain ⟨⟨v, r''⟩, hv, h⟩ := Option.bind_eq_some_iff.mp h
  simp only [Option.bind_eq_bind, hk, hr', hvalue _ _ hv, Option.bind_some]
  dsimp only at h
  split at h
  next heq => simpa [heq] using h
  next => exact hmembers _ _ _ h
  next => cases h

/-- **More fuel reads the same.** -/
theorem scan_mono (n : Nat) :
    (∀ cs p, scanOnce F n cs = some p → scanOnce F (n + 1) cs = some p) ∧
      (∀ cs p, scanItems F n cs = some p → scanItems F (n + 1) cs = some p) ∧
      ∀ d cs p, scanMembers F n d cs = some p → scanMembers F (n + 1) d cs = some p := by
  induction n with
  | zero =>
      refine ⟨fun cs p h => ?_, fun cs p h => ?_, fun d cs p h => ?_⟩
      · rw [scanOnce] at h
        cases h
      · rw [scanItems] at h
        cases h
      · rw [scanMembers] at h
        cases h
  | succ n ih =>
      obtain ⟨hvalue, hitems, hmembers⟩ := ih
      refine ⟨?_, ?_, ?_⟩
      · exact scanOnce_step hitems hmembers
      · exact scanItems_step hvalue hitems
      · exact scanMembers_step hvalue hmembers

theorem scanOnce_mono {n m : Nat} (h : n ≤ m) {cs : List Char} {p : Json × List Char}
    (hp : scanOnce F n cs = some p) : scanOnce F m cs = some p := by
  induction h with
  | refl => exact hp
  | step _ ih => exact (scan_mono _).1 cs p ih

/-- **White space in front** makes no difference to what is read. -/
theorem load_blank {c : Char} (hc : isBlank c = true) {cs : List Char} {v : Json}
    (h : load F cs = .ok v) : load F (c :: cs) = .ok v := by
  have hskip : skipBlanks (c :: cs) = skipBlanks cs := List.dropWhile_cons_of_pos hc
  unfold load at h ⊢
  rw [hskip]
  cases hscan : scanOnce F (2 * cs.length) (skipBlanks cs) with
  | none =>
      rw [hscan] at h
      cases h
  | some p =>
      have hfuel : 2 * cs.length ≤ 2 * (c :: cs).length := by
        rw [List.length_cons]
        omega
      rw [hscan] at h
      rw [scanOnce_mono hfuel hscan]
      exact h

end Fuel

end JsonText
