/-
  ObligationRuntime.Lib.Loaded — values of the language as `json.loads` can give them.

  Beside the values of a JSON text proper, the reader gives floats that are infinite or no
  number, and strings in which a surrogate stands without its partner.  `int` and a `str`
  field of a model take the one and the other differently, each with its own exception.

  Main results:
    * `text?_eq_some_iff` — the strings that are texts,
    * `asText_eq_ok_iff` — what a `str` field takes.
-/
import ObligationRuntime.Lib.Value

namespace Py

/-! ## §1. Exceptions. -/

/-- The exceptions of reading a value; a class stands for its subclasses too. -/
inductive Raised where
  | typeError (text : String)
  | valueError (text : String)
  | attributeError (text : String)
  | overflowError (text : String)
  | recursionError
  deriving DecidableEq, Repr

/-- The text of an exception that `except (TypeError, ValueError)` takes. -/
def Raised.caught : Raised → Option String
  | .typeError text => some text
  | .valueError text => some text
  | _ => none

/-! ## §2. Floats and strings. -/

/-- A float. -/
inductive PyFloat where
  | finite (q : Rat)
  | infinite
  | nan
  deriving DecidableEq, Repr

/-- `int(x)` of a float. -/
def PyFloat.toInt : PyFloat → Except Raised Int
  | .finite q => .ok (q.num.tdiv q.den)
  | .infinite => .error (.overflowError "cannot convert float infinity to integer")
  | .nan => .error (.valueError "cannot convert float NaN to integer")

/-- A string, by its characters; `none` is a surrogate without its partner. -/
abbrev PyStr := List (Option Char)

namespace PyStr

/-- A text, as a string. -/
def ofString (s : String) : PyStr := s.toList.map some

/-- The characters of a string that is a text. -/
def chars? : PyStr → Option (List Char)
  | [] => some []
  | none :: _ => none
  | some c :: s => (chars? s).map (c :: ·)

/-- The text that a string is, where it is one. -/
def text? (s : PyStr) : Option String := (chars? s).map String.ofList

theorem chars?_eq_some_iff {s : PyStr} {cs : List Char} :
    chars? s = some cs ↔ s = cs.map some := by
  induction s generalizing cs with
  | nil => cases cs <;> simp [chars?]
  | cons c s ih =>
      cases c with
      | none => cases cs <;> simp [chars?]
      | some c =>
          cases cs with
          | nil => simp [chars?]
          | cons d cs => simp [chars?, ih, and_comm]

theorem text?_eq_some_iff {s : PyStr} {t : String} : text? s = some t ↔ s = ofString t := by
  simp only [text?, ofString, Option.map_eq_some_iff, chars?_eq_some_iff]
  constructor
  · rintro ⟨cs, rfl, rfl⟩
    simp
  · rintro rfl
    exact ⟨t.toList, rfl, String.ofList_toList⟩

@[simp] theorem text?_ofString (t : String) : text? (ofString t) = some t :=
  text?_eq_some_iff.mpr rfl

end PyStr

/-! ## §3. Values. -/

/-- A value that `json.loads` gives. -/
inductive Loaded where
  | null
  | bool (b : Bool)
  | int (n : Int)
  | float (x : PyFloat)
  | str (s : PyStr)
  | arr (xs : List Loaded)
  | obj (members : List (PyStr × Loaded))

namespace Loaded

/-- A text, as a value. -/
def text (s : String) : Loaded := .str (PyStr.ofString s)

/-- `type(v).__name__`. -/
def typeName : Loaded → String
  | .null => "NoneType"
  | .bool _ => "bool"
  | .int _ => "int"
  | .float _ => "float"
  | .str _ => "str"
  | .arr _ => "list"
  | .obj _ => "dict"

/-- `bool(v)`. -/
def truthy : Loaded → Bool
  | .null => false
  | .bool b => b
  | .int n => decide (n ≠ 0)
  | .float x => decide (x ≠ .finite 0)
  | .str s => decide (s ≠ [])
  | .arr xs => !xs.isEmpty
  | .obj d => !d.isEmpty

/-- `d.get(key, default)`. -/
def get (members : List (PyStr × Loaded)) (key : String) (default : Loaded) : Loaded :=
  match members.find? fun kv => decide (kv.1 = PyStr.ofString key) with
  | some kv => kv.2
  | none => default

/-- `int(v)`; `numeral` is `int` of a string. -/
def toInt (numeral : PyStr → Except String Int) : Loaded → Except Raised Int
  | .bool b => .ok (if b then 1 else 0)
  | .int n => .ok n
  | .float x => x.toInt
  | .str s => (numeral s).mapError .valueError
  | v => .error (.typeError ("int() argument must be a string, a bytes-like object or a real " ++
      "number, not '" ++ v.typeName ++ "'"))

/-- The value is the number zero. -/
def isZero : Loaded → Bool
  | .int n => decide (n = 0)
  | .float (.finite q) => decide (q = 0)
  | _ => false

/-- A `str` field of a model. -/
def asText (field : String) : Loaded → Except Raised String
  | .str s =>
      match s.text? with
      | some t => .ok t
      | none => .error (.valueError (field ++ ": string_unicode"))
  | _ => .error (.valueError (field ++ ": string_type"))

/-- The value is a string. -/
def IsStr (v : Loaded) : Prop := ∃ s, v = .str s

/-- **What a `str` field takes**: the strings that are texts. -/
theorem asText_eq_ok_iff {v : Loaded} {field t : String} :
    v.asText field = .ok t ↔ v = text t := by
  cases v with
  | str s =>
      cases h : s.text? with
      | none =>
          have hne : s ≠ PyStr.ofString t := fun he => by simp [he] at h
          simp [asText, h, text, hne]
      | some u =>
          obtain rfl := PyStr.text?_eq_some_iff.mp h
          simp only [asText, PyStr.text?_ofString, text, Except.ok.injEq, Loaded.str.injEq]
          refine ⟨fun he => by rw [he], fun he => ?_⟩
          have hu := congrArg PyStr.text? he
          simpa using hu
  | _ => simp [asText, text]

@[simp] theorem asText_text (field t : String) : (text t).asText field = .ok t :=
  asText_eq_ok_iff.mpr rfl

theorem truthy_text (t : String) : (text t).truthy = decide (t ≠ "") := by
  have hnil : PyStr.ofString t = [] ↔ t = "" := by
    rw [PyStr.ofString, List.map_eq_nil_iff, String.toList_eq_nil_iff]
  simp [truthy, text, hnil]

end Loaded

end Py
