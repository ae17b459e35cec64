/-
  ObligationRuntime.Lib.PercentFormat — `template % args`.

  A template is text and conversions, `%` with a key, flags, a width, a precision, a length
  and a type.  The positional arguments are taken in their order, and all of them are to be
  taken; a mapping is looked up by the keys, or taken as a whole by one conversion without a
  key.  What a conversion writes for its arguments is left to a renderer, as far as it is not
  the string of a plain `%s`.

  Main results:
    * `pieces_lit`, `pieces_conv` — a template is read piece by piece,
    * `formatTuple_arity` — as many arguments are taken as there are,
    * `formatTuple_keyed` — a tuple has no keys.
-/
import Mathlib.Data.List.Basic

namespace PercentFormat

/-! ## §1. Conversions. -/

/-- A flag. -/
def isFlag (c : Char) : Bool := decide (c ∈ ['-', '+', ' ', '#', '0'])

/-- The types of a conversion. -/
def types : List Char :=
  ['d', 'i', 'o', 'u', 'x', 'X', 'e', 'E', 'f', 'F', 'g', 'G', 'c', 'r', 's', 'a', '%']

/-- A conversion. -/
structure Conv where
  key : Option (List Char) := none
  flags : List Char := []
  width : List Char := []
  precision : List Char := []
  length : List Char := []
  type : Char
  deriving DecidableEq

/-- A key in its brackets. -/
def keyText : Option (List Char) → List Char
  | none => []
  | some key => '(' :: (key ++ [')'])

/-- The text of a conversion after its `%`. -/
def Conv.text (c : Conv) : List Char :=
  keyText c.key ++ (c.flags ++ (c.width ++ (c.precision ++ (c.length ++ [c.type]))))

/-- How many arguments a conversion takes: one for each `*`, and its own. -/
def Conv.arity (c : Conv) : Nat :=
  (c.width ++ c.precision).count '*' + if c.type = '%' then 0 else 1

/-- `%s`. -/
def Conv.string : Conv := { type := 's' }

/-- `%%`. -/
def Conv.percent : Conv := { type := '%' }

/-- A key, up to the bracket that closes it; `depth` brackets are open inside. -/
def scanKey : Nat → List Char → Option (List Char)
  | _, [] => none
  | depth, c :: cs =>
      if c = ')' then
        match depth with
        | 0 => some []
        | depth + 1 => (scanKey depth cs).map (c :: ·)
      else if c = '(' then (scanKey (depth + 1) cs).map (c :: ·)
      else (scanKey depth cs).map (c :: ·)

/-- A `*`, or digits. -/
def scanNumber : List Char → List Char
  | '*' :: _ => ['*']
  | cs => cs.takeWhile Char.isDigit

/-- A precision. -/
def scanPrecision : List Char → List Char
  | '.' :: cs => '.' :: scanNumber cs
  | _ => []

/-- A length. -/
def scanLength : List Char → List Char
  | [] => []
  | c :: _ => if c ∈ ['h', 'l', 'L'] then [c] else []

/-- What follows the key of a conversion; none for another type, and for a text that ends. -/
def scanSpec (key : Option (List Char)) (cs : List Char) : Option Conv :=
  let flags := cs.takeWhile isFlag
  let cs := cs.drop flags.length
  let width := scanNumber cs
  let cs := cs.drop width.length
  let precision := scanPrecision cs
  let cs := cs.drop precision.length
  let length := scanLength cs
  match cs.drop length.length with
  | [] => none
  | type :: _ =>
      if type ∈ types then some { key, flags, width, precision, length, type } else none

/-- The conversion after a `%`. -/
def scanConv : List Char → Option Conv
  | '(' :: cs => (scanKey 0 cs).bind fun key => scanSpec (some key) (cs.drop (key.length + 1))
  | cs => scanSpec none cs

/-- The text of the conversion is read as it, whatever follows. -/
def Conv.Scans (c : Conv) : Prop := ∀ rest, scanConv (c.text ++ rest) = some c

/-! ## §2. Templates. -/

/-- A piece of a template. -/
inductive Piece where
  | lit (c : Char)
  | conv (c : Conv)
  deriving DecidableEq

/-- The pieces of a template, after so many characters of a conversion that was read. -/
def pieces : Nat → List Char → Option (List Piece)
  | _, [] => some []
  | skip + 1, _ :: cs => pieces skip cs
  | 0, c :: cs =>
      if c = '%' then
        -- A conversion that cannot be read makes the whole template fail.
        match scanConv cs with
        | none => none
        | some conv => (pieces conv.text.length cs).map (.conv conv :: ·)
      else (pieces 0 cs).map (.lit c :: ·)

/-- What a piece has taken is skipped. -/
theorem pieces_skip (xs cs : List Char) : pieces xs.length (xs ++ cs) = pieces 0 cs := by
  induction xs with
  | nil => rfl
  | cons x xs ih => simpa [pieces] using ih

/-- A character is read as itself. -/
theorem pieces_lit {c : Char} (h : c ≠ '%') (cs : List Char) :
    pieces 0 (c :: cs) = (pieces 0 cs).map (.lit c :: ·) := by
  rw [pieces, if_neg h]

/-- A conversion is read as itself. -/
theorem pieces_conv {c : Conv} (h : c.Scans) (cs : List Char) :
    pieces 0 ('%' :: (c.text ++ cs)) = (pieces 0 cs).map (.conv c :: ·) := by
  rw [pieces, if_pos rfl, h cs]
  exact congrArg (Option.map _) (pieces_skip c.text cs)

theorem scans_string : Conv.string.Scans := fun _ => rfl

/-! ## §3. Formatting. -/

/-- A value: a string, or another one. -/
inductive Value (α : Type) where
  | str (cs : List Char)
  | other (a : α)

/-- What conversions write for their arguments; none where they raise. -/
structure Renderer (α : Type) where
  convert : Conv → List (Value α) → Option (List Char)
  convert_string : ∀ cs, convert Conv.string [.str cs] = some cs
  convert_percent : convert Conv.percent [] = some ['%']

section

variable {α : Type} (R : Renderer α)

/-- `template % args`, for a tuple. -/
def formatTuple : List Piece → List (Value α) → Option (List Char)
  | [], [] => some []
  -- Not all arguments are converted.
  | [], _ :: _ => none
  | .lit c :: ps, vs => (formatTuple ps vs).map (c :: ·)
  | .conv c :: ps, vs =>
      if c.key.isSome || decide (vs.length < c.arity) then none
      else do
        let written ← R.convert c (vs.take c.arity)
        let rest ← formatTuple ps (vs.drop c.arity)
        return written ++ rest

/-- The value under a key. -/
def lookup (items : List (Value α × Value α)) (key : List Char) : Option (Value α) :=
  items.findSome? fun kv =>
    match kv.1 with
    | .str k => if k = key then some kv.2 else none
    | .other _ => none

/-- What a conversion may take of a mapping: the value under its key, or else what is
left, the mapping as a whole at the start. -/
def available (items : List (Value α × Value α)) (pending : Option (Value α)) (c : Conv) :
    Option (Option (Value α)) :=
  match c.key with
  | none => some pending
  | some key => (lookup items key).map some

/-- `template % args`, for a mapping. -/
def formatMapping (items : List (Value α × Value α)) :
    List Piece → Option (Value α) → Option (List Char)
  | [], _ => some []
  | .lit c :: ps, pending => (formatMapping items ps pending).map (c :: ·)
  | .conv c :: ps, pending =>
      match available items pending c with
      | none => none
      | some pending =>
          if pending.toList.length < c.arity then none
          else do
            let written ← R.convert c (pending.toList.take c.arity)
            let rest ← formatMapping items ps (pending.toList.drop c.arity).head?
            return written ++ rest

/-- How many arguments the pieces take. -/
def totalArity : List Piece → Nat
  | [] => 0
  | .lit _ :: ps => totalArity ps
  | .conv c :: ps => c.arity + totalArity ps

theorem totalArity_append (ps qs : List Piece) :
    totalArity (ps ++ qs) = totalArity ps + totalArity qs := by
  induction ps with
  | nil => exact (Nat.zero_add _).symm
  | cons p ps ih =>
      cases p with
      | lit c => exact ih
      | conv c => rw [List.cons_append, totalArity, totalArity, ih, Nat.add_assoc]

theorem totalArity_cons (p : Piece) (ps : List Piece) :
    totalArity (p :: ps) = totalArity [p] + totalArity ps := totalArity_append [p] ps

variable {R}

/-- **As many arguments are taken as there are.** -/
theorem formatTuple_arity {ps : List Piece} {vs : List (Value α)} {out : List Char}
    (h : formatTuple R ps vs = some out) : totalArity ps = vs.length := by
  induction ps generalizing vs out with
  | nil =>
      cases vs with
      | nil => rfl
      | cons v vs => cases h
  | cons p ps ih =>
      cases p with
      | lit c =>
          obtain ⟨rest, hrest, -⟩ := Option.map_eq_some_iff.mp h
          exact ih hrest
      | conv c =>
          rw [formatTuple] at h
          split at h
          · cases h
          next hcond =>
            obtain ⟨written, -, h⟩ := Option.bind_eq_some_iff.mp h
            obtain ⟨rest, hrest, -⟩ := Option.bind_eq_some_iff.mp h
            have hrec := ih hrest
            -- Too few arguments would have been an error.
            have hlen : ¬ vs.length < c.arity := fun hlt => hcond (by simp [hlt])
            rw [List.length_drop] at hrec
            rw [totalArity]
            omega

/-- **A tuple has no keys.** -/
theorem formatTuple_keyed {ps : List Piece} {vs : List (Value α)} {c : Conv}
    (hc : .conv c ∈ ps) (hkey : c.key.isSome = true) : formatTuple R ps vs = none := by
  induction ps generalizing vs with
  | nil => cases hc
  | cons p ps ih =>
      rcases List.mem_cons.mp hc with rfl | hlater
      · rw [formatTuple, hkey]
        rfl
      · cases p with
        | lit d => rw [formatTuple, ih hlater]; rfl
        | conv d =>
            rw [formatTuple]
            split
            · rfl
            · rw [ih hlater]
              cases R.convert d (vs.take d.arity) <;> rfl

/-- A character is written as it is. -/
theorem formatTuple_lit (c : Char) (ps : List Piece) (vs : List (Value α)) :
    formatTuple R (.lit c :: ps) vs = (formatTuple R ps vs).map (c :: ·) := by
  cases vs <;> rfl

/-- A conversion takes its arguments from the front. -/
theorem formatTuple_conv {c : Conv} {ps : List Piece} {vs ws : List (Value α)}
    {written : List Char} (hkey : c.key = none) (hlen : vs.length = c.arity)
    (hw : R.convert c vs = some written) :
    formatTuple R (.conv c :: ps) (vs ++ ws) = (formatTuple R ps ws).map (written ++ ·) := by
  have hcond : (c.key.isSome || decide ((vs ++ ws).length < c.arity)) = false := by
    simp [hkey, ← hlen]
  rw [formatTuple, hcond, ← hlen, List.take_left, List.drop_left, hw]
  cases formatTuple R ps ws <;> rfl

end

end PercentFormat
