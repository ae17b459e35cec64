/-
  ObligationRuntime.Lib.Schema — typed records over dynamic values.

  A `Codec α` says how a model field of type `α` is written (`dump`) and how a
  dynamic value is read back (`validate`), together with the law that reading
  what was written gives the same value.  The readers are the lax ones of
  pydantic: a `bool` field takes `0`, `1` and the usual words, an `int` field
  takes integral floats and numerals.

  A model is read from a `Dict` field by field (`req`, `opt`), after a check of
  the keys it does not know (`forbidExtra` for a model that forbids them; a
  model that ignores them has no check).  So two models with different field
  sets disagree about a mapping exactly on its keys: see `forbidExtra_error`.

  Main results:
    * `Codec.validate_dump` — the round trip every codec carries,
    * `forbidExtra_error` — an unknown key fails the check, wherever it is.
-/
import ObligationRuntime.Lib.Value

namespace Py

/-! ## §1. Codecs. -/

/-- How a field type is dumped and validated, with the round-trip law. -/
structure Codec (α : Type) where
  dump : α → Json
  validate : Json → Except PyError α
  validate_dump : ∀ a, validate (dump a) = .ok a

attribute [simp] Codec.validate_dump

namespace Codec

/-- The error of a value of the wrong type; where it stands is for its field to say. -/
def mismatch {α : Type} (type : String) : Except PyError α :=
  .error (.validationError "" type)

/-- `Any`. -/
def any : Codec Json := ⟨id, .ok, fun _ => rfl⟩

/-- `str`: only strings. -/
def str : Codec String where
  dump := .str
  validate
    | .str s => .ok s
    | _ => mismatch "string_type"
  validate_dump _ := rfl

/-- The words a lax `bool` field reads. -/
def boolOfWord? (s : String) : Option Bool :=
  let w := String.ofList (s.toList.map Char.toLower)
  if w ∈ ["true", "t", "yes", "y", "on", "1"] then some true
  else if w ∈ ["false", "f", "no", "n", "off", "0"] then some false
  else none

/-- `bool`, lax. -/
def bool : Codec Bool where
  dump := .bool
  validate
    | .bool b => .ok b
    | .int n => if n = 0 then .ok false else if n = 1 then .ok true else mismatch "bool_parsing"
    | .flt q => if q = 0 then .ok false else if q = 1 then .ok true else mismatch "bool_parsing"
    | .str s =>
        match boolOfWord? s with
        | some b => .ok b
        | none => mismatch "bool_parsing"
    | _ => mismatch "bool_type"
  validate_dump _ := rfl

/-- The value of a run of decimal digits. -/
def natOfDigits? : Nat → List Char → Option Nat
  | acc, [] => some acc
  | acc, c :: cs => if c.isDigit then natOfDigits? (10 * acc + (c.toNat - '0'.toNat)) cs else none

/-- A signed decimal numeral. -/
def intOfNumeral? (s : String) : Option Int :=
  match s.toList with
  | [] => none
  | '-' :: c :: cs => (natOfDigits? 0 (c :: cs)).map fun n => -(n : Int)
  | '+' :: c :: cs => (natOfDigits? 0 (c :: cs)).map Int.ofNat
  | cs => (natOfDigits? 0 cs).map Int.ofNat

/-- `int`, lax. -/
def int : Codec Int where
  dump := .int
  validate
    | .int n => .ok n
    | .bool b => .ok (if b then 1 else 0)
    -- A float with no fraction is taken, any other is refused.
    | .flt q => if q.den = 1 then .ok q.num else mismatch "int_from_float"
    | .str s =>
        match intOfNumeral? s with
        | some n => .ok n
        | none => mismatch "int_parsing"
    | _ => mismatch "int_type"
  validate_dump _ := rfl

/-- `dict[str, Any]`. -/
def dict : Codec Dict where
  dump := .obj
  validate
    | .obj d => .ok d
    | _ => mismatch "dict_type"
  validate_dump _ := rfl

section Compound

variable {α β : Type}

/-- What is wrong with the value of a field is reported at the field: its name, and the
place inside it. -/
def atField (k : String) : Except PyError α → Except PyError α
  | .error (.validationError place type) =>
      .error (.validationError (if place = "" then k else k ++ "." ++ place) type)
  | x => x

@[simp] theorem atField_ok (k : String) (a : α) : atField k (.ok a) = .ok a := rfl

/-- What is read at a field is what is read. -/
theorem atField_eq_ok_iff {k : String} {x : Except PyError α} {a : α} :
    atField k x = .ok a ↔ x = .ok a := by
  unfold atField
  split <;> simp

/-- Validate a list element by element, the first of them at this index; the first failure
is the list's. -/
def validateAll (f : Json → Except PyError α) : Nat → List Json → Except PyError (List α)
  | _, [] => .ok []
  | i, x :: xs =>
      match atField (toString i) (f x), validateAll f (i + 1) xs with
      | .ok a, .ok as => .ok (a :: as)
      | .error e, _ => .error e
      | .ok _, .error e => .error e

/-- A dumped list is read back, from any index. -/
theorem validateAll_map (c : Codec α) (i : Nat) (as : List α) :
    validateAll c.validate i (as.map c.dump) = .ok as := by
  induction as generalizing i with
  | nil => rfl
  | cons a as ih => simp [validateAll, ih]

/-- `list[T]`. -/
def list (c : Codec α) : Codec (List α) where
  dump as := .arr (as.map c.dump)
  validate
    | .arr xs => validateAll c.validate 0 xs
    | _ => mismatch "list_type"
  validate_dump := validateAll_map c 0

/-- `T | None`, for a type that never dumps to `None`. -/
def option (c : Codec α) (h : ∀ a, c.dump a ≠ .null) : Codec (Option α) where
  dump
    | some a => c.dump a
    | none => .null
  validate v := if v = .null then .ok none else (c.validate v).map some
  validate_dump
    | none => by simp
    | some a => by simp [h a, Except.map]

/-- `Literal[...]`: one of finitely many words. -/
def literal (values : List α) (text : α → String)
    (h : ∀ a, values.find? (fun b => text b = text a) = some a) : Codec α where
  dump a := .str (text a)
  validate
    | .str s =>
        match values.find? (fun b => text b = s) with
        | some a => .ok a
        | none => mismatch "literal_error"
    | _ => mismatch "literal_error"
  validate_dump a := by simp [h a]

/-- A codec from a nested model's own functions. -/
def model (dump : α → Dict) (validate : Json → Except PyError α)
    (h : ∀ a, validate (.obj (dump a)) = .ok a) : Codec α :=
  ⟨fun a => .obj (dump a), validate, h⟩

end Compound

@[simp] theorem str_dump (s : String) : str.dump s = .str s := rfl
@[simp] theorem bool_dump (b : Bool) : bool.dump b = .bool b := rfl
@[simp] theorem int_dump (n : Int) : int.dump n = .int n := rfl
@[simp] theorem dict_dump (d : Dict) : dict.dump d = .obj d := rfl
@[simp] theorem any_dump (v : Json) : any.dump v = v := rfl
@[simp] theorem str_validate (s : String) : str.validate (.str s) = .ok s := rfl
@[simp] theorem bool_validate (b : Bool) : bool.validate (.bool b) = .ok b := rfl
@[simp] theorem int_validate (n : Int) : int.validate (.int n) = .ok n := rfl
@[simp] theorem dict_validate (d : Dict) : dict.validate (.obj d) = .ok d := rfl
@[simp] theorem any_validate (v : Json) : any.validate v = .ok v := rfl

end Codec

/-! ## §2. Date-time texts. -/

namespace Iso

/-- Read `n` decimal digits. -/
def digits : Nat → Nat → List Char → Option (Nat × List Char)
  | 0, acc, cs => some (acc, cs)
  | n + 1, acc, c :: cs =>
      if c.isDigit then digits n (10 * acc + (c.toNat - '0'.toNat)) cs else none
  | _ + 1, _, [] => none

/-- Length of a month. -/
def daysIn (year month : Nat) : Nat :=
  if month = 2 then (if year % 4 = 0 ∧ (year % 100 ≠ 0 ∨ year % 400 = 0) then 29 else 28)
  else if month ∈ [4, 6, 9, 11] then 30 else 31

/-- `YYYY-MM-DD`, giving what follows. -/
def date (cs : List Char) : Option (List Char) :=
  match digits 4 0 cs with
  | some (y, '-' :: cs) =>
      match digits 2 0 cs with
      | some (m, '-' :: cs) =>
          match digits 2 0 cs with
          | some (d, cs) =>
              if 1 ≤ y ∧ 1 ≤ m ∧ m ≤ 12 ∧ 1 ≤ d ∧ d ≤ daysIn y m then some cs else none
          | none => none
      | _ => none
  | _ => none

/-- Nothing, `Z`, `±HH:MM` or `±HHMM`. -/
def zone : List Char → Bool
  | [] => true
  | ['Z'] | ['z'] => true
  | c :: cs =>
      (c = '+' ∨ c = '-') &&
        (match digits 2 0 cs with
         | some (h, cs) =>
             -- The colon of the offset may be missing.
             let cs := match cs with
               | ':' :: cs => cs
               | cs => cs
             (match digits 2 0 cs with
              | some (m, []) => decide (h ≤ 23 ∧ m ≤ 59)
              | _ => false)
         | none => false)

/-- An optional fraction of a second, then a zone. -/
def fraction : List Char → Bool
  | '.' :: c :: cs => c.isDigit && zone (cs.dropWhile Char.isDigit)
  | cs => zone cs

/-- `HH:MM[:SS[.f]][zone]`. -/
def time (cs : List Char) : Bool :=
  match digits 2 0 cs with
  | some (h, ':' :: cs) =>
      match digits 2 0 cs with
      | some (m, cs) =>
          decide (h ≤ 23 ∧ m ≤ 59) &&
            (match cs with
             | ':' :: cs =>
                 (match digits 2 0 cs with
                  | some (s, cs) => decide (s ≤ 59) && fraction cs
                  | none => false)
             | cs => zone cs)
      | none => false
  | _ => false

/-- A date, alone or followed by a time. -/
def datetime (cs : List Char) : Bool :=
  match date cs with
  | some [] => true
  | some (c :: cs) => (c = 'T' ∨ c = 't' ∨ c = ' ' ∨ c = '_') && time cs
  | none => false

end Iso

/-- A date-time, carried by its ISO text. -/
abbrev Timestamp := { s : String // Iso.datetime s.toList = true }

namespace Unix

/-- Year, month and day, so many days after the first of January 1970. -/
def civil (days : Int) : Int × Nat × Nat :=
  -- Eras of 400 years, from the first of March of the year 0.
  let z := days + 719468
  let dayOfEra := (z % 146097).toNat
  let yearOfEra :=
    (dayOfEra - dayOfEra / 1460 + dayOfEra / 36524 - dayOfEra / 146096) / 365
  let dayOfYear := dayOfEra - (365 * yearOfEra + yearOfEra / 4 - yearOfEra / 100)
  let fromMarch := (5 * dayOfYear + 2) / 153
  let month := if fromMarch < 10 then fromMarch + 3 else fromMarch - 9
  let year := yearOfEra + z / 146097 * 400 + if month ≤ 2 then 1 else 0
  (year, month, dayOfYear - (153 * fromMarch + 2) / 5 + 1)

/-- A number with so many digits at least. -/
def padded (width n : Nat) : List Char :=
  List.replicate (width - (Nat.toDigits 10 n).length) '0' ++ Nat.toDigits 10 n

/-- The ISO text, so many microseconds after the first of January 1970. -/
def text (micros : Int) : List Char :=
  let seconds := micros / 1000000
  let (year, month, day) := civil (seconds / 86400)
  let clock := (seconds % 86400).toNat
  let fraction := (micros % 1000000).toNat
  padded 4 year.toNat ++ '-' :: padded 2 month ++ '-' :: padded 2 day ++
    'T' :: padded 2 (clock / 3600) ++ ':' :: padded 2 (clock / 60 % 60) ++
    ':' :: padded 2 (clock % 60) ++
    (if fraction = 0 then [] else '.' :: padded 6 fraction) ++ ['Z']

/-- Beyond this number a time is in milliseconds. -/
def watershed : Nat := 20000000000

/-- The microseconds of a number that is a time, from the year 1600 to the year 9999. -/
def micros? (q : Rat) : Option Int :=
  let micros :=
    if q.floor.natAbs ≤ watershed then (q * 1000000).floor else (q * 1000).floor
  if -11676096000000000 ≤ micros ∧ micros < 253402300800000000 then some micros else none

/-- A decimal numeral, with or without a fraction. -/
def numeral? (s : String) : Option Rat :=
  match s.toList.splitOn '.' with
  | [whole] => (Codec.intOfNumeral? (String.ofList whole)).map fun n => (n : Rat)
  | [whole, part] =>
      match Codec.intOfNumeral? (String.ofList whole), Codec.natOfDigits? 0 part with
      | some n, some m =>
          let fraction : Rat := m / 10 ^ part.length
          some (if whole.head? = some '-' then n - fraction else n + fraction)
      | _, _ => none
  | _ => none

end Unix

namespace Codec

/-- A date-time from a number: Unix time, in seconds or milliseconds. -/
def timestampOf (q : Rat) : Except PyError Timestamp :=
  match Unix.micros? q with
  | none => mismatch "datetime_parsing"
  | some micros =>
      let text := String.ofList (Unix.text micros)
      if h : Iso.datetime text.toList = true then .ok ⟨text, h⟩ else mismatch "datetime_parsing"

/-- Unix time as a number, or as a numeral. -/
def unixTime : Json → Except PyError Timestamp
  | .int n => timestampOf n
  | .flt q => timestampOf q
  | .str s =>
      match Unix.numeral? s with
      | some q => timestampOf q
      | none => mismatch "datetime_parsing"
  | _ => mismatch "datetime_type"

/-- `datetime`, read from its ISO text, or else by `other`. -/
def timestampBy (other : Json → Except PyError Timestamp) : Codec Timestamp where
  dump t := .str t.1
  validate v :=
    match v with
    | .str s => if h : Iso.datetime s.toList = true then .ok ⟨s, h⟩ else other v
    | _ => other v
  validate_dump t := by simp [t.2]

/-- `datetime`, lax: an ISO text, or Unix time. -/
def timestamp : Codec Timestamp := timestampBy unixTime

end Codec

/-- The first second of 1970, and a time in milliseconds. -/
example : (Codec.timestamp.validate (.int 0)).map Subtype.val = .ok "1970-01-01T00:00:00Z" ∧
    (Codec.timestamp.validate (.int 1709210096789)).map Subtype.val =
      .ok "2024-02-29T12:34:56.789000Z" := by decide +kernel

/-! ## §3. Reading a record. -/

@[simp] theorem ok_bind {ε α β : Type} (a : α) (f : α → Except ε β) :
    (Except.ok a >>= f) = f a := rfl

@[simp] theorem error_bind {ε α β : Type} (e : ε) (f : α → Except ε β) :
    (Except.error e >>= f) = .error e := rfl

@[simp] theorem pure_eq_ok {ε α : Type} (a : α) : (pure a : Except ε α) = .ok a := rfl

/-- A sequence of readers succeeds exactly when each of them does. -/
theorem bind_eq_ok_iff {ε α β : Type} {x : Except ε α} {f : α → Except ε β} {b : β} :
    (x >>= f) = .ok b ↔ ∃ a, x = .ok a ∧ f a = .ok b := by
  cases x <;> simp

/-- A list is read exactly when each of its elements is. -/
theorem mapM_eq_ok_iff {ε α β : Type} {f : α → Except ε β} {xs : List α} {ys : List β} :
    xs.mapM f = .ok ys ↔ List.Forall₂ (fun x y => f x = .ok y) xs ys := by
  induction xs generalizing ys with
  | nil =>
      rw [List.mapM_nil]
      constructor
      · rintro ⟨⟩
        exact .nil
      · rintro ⟨⟩
        rfl
  | cons x xs ih =>
      rw [List.mapM_cons, bind_eq_ok_iff]
      constructor
      · rintro ⟨y, hy, h⟩
        obtain ⟨rest, hrest, h⟩ := bind_eq_ok_iff.mp h
        obtain rfl := Except.ok.inj h
        exact .cons hy (ih.mp hrest)
      · rintro (- | ⟨hy, hrest⟩)
        exact ⟨_, hy, bind_eq_ok_iff.mpr ⟨_, ih.mpr hrest, rfl⟩⟩

section Record

variable {α : Type}

/-- The mapping behind a model value. -/
def asDict : Json → Except PyError Dict
  | .obj d => .ok d
  | _ => .error (.validationError "" "model_type")

@[simp] theorem asDict_obj (d : Dict) : asDict (.obj d) = .ok d := rfl

/-- `extra="forbid"`: the first key outside `fields` is refused. -/
def forbidExtra (fields : List String) : Dict → Except PyError Unit
  | [] => .ok ()
  | (k, _) :: d =>
      if k ∈ fields then forbidExtra fields d
      else .error (.validationError k "extra_forbidden")

/-- A required field. -/
def req (c : Codec α) (d : Dict) (k : String) : Except PyError α :=
  match d.get? k with
  | some v => Codec.atField k (c.validate v)
  | none => .error (.validationError k "missing")

/-- A field with a default. -/
def opt (c : Codec α) (d : Dict) (k : String) (default : α) : Except PyError α :=
  match d.get? k with
  | some v => Codec.atField k (c.validate v)
  | none => .ok default

/-- An unknown key anywhere: the check fails. -/
theorem forbidExtra_error {fields : List String} {d : Dict} {k : String}
    (hk : k ∈ d.keys) (hf : k ∉ fields) :
    ∃ l, forbidExtra fields d = .error (.validationError l "extra_forbidden") := by
  induction d with
  | nil => simp [Dict.keys] at hk
  | cons kv d ih =>
      obtain ⟨l, v⟩ := kv
      by_cases hl : l ∈ fields
      · have hne : k ≠ l := fun e => hf (e ▸ hl)
        -- The unknown key is not this one: it is among the rest.
        have hkd : k ∈ Dict.keys d := by
          simp only [Dict.keys, List.map_cons, List.mem_cons] at hk
          exact hk.resolve_left hne
        obtain ⟨e, he⟩ := ih hkd
        exact ⟨e, by simp [forbidExtra, hl, he]⟩
      · exact ⟨l, by simp [forbidExtra, hl]⟩

end Record

end Py
