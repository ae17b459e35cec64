/-
  ObligationRuntime.Lib.Value — dynamic values as Python programs hold them.

  `Json` is the type of everything a program can read out of a JSON text or a
  `model_dump`: it carries exactly the data on which the language's own
  operators look, so truthiness, `==`, `.get`, iteration and `list(..)` are
  total functions here, or fallible ones (`Except PyError`) where the language
  raises.

  A `Dict` is an association list in insertion order; `Dict.get?` reads it and
  `Dict.set` is item assignment (an existing key keeps its place).

  Main facts:
    * `Json` has decidable equality (`Json.beq_iff`), so what is said
      of concrete values can be decided,
    * `Dict.get?_set_self` / `Dict.get?_set_ne` — item assignment is a store,
    * `lookup_insert_ite` / `lookup_erase_ite` — and so it is without the order.
-/
import Mathlib.Data.List.AList
import Mathlib.Data.List.Basic
import Mathlib.Data.Rat.Defs

namespace Py

/-! ## §1. Values. -/

/-- A JSON value as the `json` module reads it: integers and floats are
different constructors (a float is the rational number it denotes). -/
inductive Json where
  | null
  | bool (b : Bool)
  | int (n : Int)
  | flt (q : Rat)
  | str (s : String)
  | arr (xs : List Json)
  | obj (kvs : List (String × Json))
  deriving Inhabited, Repr

/-- A string-keyed mapping, in insertion order. -/
abbrev Dict := List (String × Json)

/-- The exceptions of the language and of the libraries that the modelled code
meets; the text says what was being done. -/
inductive PyError where
  | attributeError (what : String)
  | typeError (what : String)
  | valueError (what : String)
  | validationError (field : String) (type : String)
  | fileNotFoundError (path : String)
  | osError (what : String)
  | apiError (status : Nat) (code : String)
  | recursionError
  deriving DecidableEq, Repr, Inhabited

/-! ## §2. Structural equality is decidable. -/

mutual
/-- Structural equality test. -/
def Json.beq : Json → Json → Bool
  | .null, .null => true
  | .bool a, .bool b => a == b
  | .int a, .int b => decide (a = b)
  | .flt a, .flt b => decide (a = b)
  | .str a, .str b => decide (a = b)
  | .arr xs, .arr ys => Json.beqList xs ys
  | .obj xs, .obj ys => Json.beqDict xs ys
  | _, _ => false

/-- `Json.beq`, element by element. -/
def Json.beqList : List Json → List Json → Bool
  | [], [] => true
  | x :: xs, y :: ys => Json.beq x y && Json.beqList xs ys
  | _, _ => false

/-- `Json.beq`, entry by entry. -/
def Json.beqDict : List (String × Json) → List (String × Json) → Bool
  | [], [] => true
  | (k, x) :: xs, (l, y) :: ys => decide (k = l) && Json.beq x y && Json.beqDict xs ys
  | _, _ => false
end

mutual
/-- The test decides equality: of values, -/
theorem Json.beq_iff : ∀ a b : Json, Json.beq a b = true ↔ a = b
  | .null, b => by cases b <;> simp [Json.beq]
  | .bool _, b => by cases b <;> simp [Json.beq]
  | .int _, b => by cases b <;> simp [Json.beq]
  | .flt _, b => by cases b <;> simp [Json.beq]
  | .str _, b => by cases b <;> simp [Json.beq]
  | .arr xs, b => by
      cases b with
      | arr ys => simp [Json.beq, Json.beqList_iff xs ys]
      | _ => simp [Json.beq]
  | .obj xs, b => by
      cases b with
      | obj ys => simp [Json.beq, Json.beqDict_iff xs ys]
      | _ => simp [Json.beq]

/-- of lists, -/
theorem Json.beqList_iff : ∀ xs ys : List Json, Json.beqList xs ys = true ↔ xs = ys
  | [], ys => by cases ys <;> simp [Json.beqList]
  | x :: xs, ys => by
      cases ys with
      | nil => simp [Json.beqList]
      | cons y ys => simp [Json.beqList, Json.beq_iff x y, Json.beqList_iff xs ys]

/-- and of members. -/
theorem Json.beqDict_iff : ∀ xs ys : List (String × Json),
    Json.beqDict xs ys = true ↔ xs = ys
  | [], ys => by cases ys <;> simp [Json.beqDict]
  | (k, x) :: xs, ys => by
      cases ys with
      | nil => simp [Json.beqDict]
      | cons y ys =>
          obtain ⟨l, y⟩ := y
          simp [Json.beqDict, Json.beq_iff x y, Json.beqDict_iff xs ys, and_assoc]
end

instance : DecidableEq Json := fun a b => decidable_of_iff _ (Json.beq_iff a b)

/-! ## §3. Mappings. -/

/-- `d.get(key)`, `none` when the key is absent. -/
def Dict.get? : Dict → String → Option Json
  | [], _ => none
  | (k, v) :: d, key => if k = key then some v else Dict.get? d key

@[simp] theorem Dict.get?_nil (key : String) : Dict.get? [] key = none := rfl

@[simp] theorem Dict.get?_cons (k : String) (v : Json) (d : Dict) (key : String) :
    Dict.get? ((k, v) :: d) key = if k = key then some v else Dict.get? d key := rfl

/-- `d.get(key, default)`. -/
def Dict.getD (d : Dict) (key : String) (default : Json) : Json :=
  (d.get? key).getD default

/-- `d[key] = v`: an existing key keeps its place, a new one goes last. -/
def Dict.set : Dict → String → Json → Dict
  | [], key, v => [(key, v)]
  | (k, w) :: d, key, v => if k = key then (k, v) :: d else (k, w) :: Dict.set d key v

/-- `d.setdefault(key, v)`. -/
def Dict.setDefault (d : Dict) (key : String) (v : Json) : Dict :=
  match d.get? key with
  | some _ => d
  | none => d ++ [(key, v)]

/-- The mapping, when there is one and it is not empty (`if d:`). -/
def Dict.present : Option Dict → Option Dict
  | some (kv :: d) => some (kv :: d)
  | _ => none

@[simp] theorem Dict.present_none : Dict.present none = none := rfl
@[simp] theorem Dict.present_nil : Dict.present (some []) = none := rfl
@[simp] theorem Dict.present_cons (kv : String × Json) (d : Dict) :
    Dict.present (some (kv :: d)) = some (kv :: d) := rfl

/-- A mapping that is not empty is there. -/
theorem Dict.present_of_ne {d : Dict} (h : d ≠ []) : Dict.present (some d) = some d := by
  cases d with
  | nil => exact absurd rfl h
  | cons kv d => rfl

/-- The keys, in order. -/
def Dict.keys (d : Dict) : List String := d.map Prod.fst

/-- What was assigned is found, -/
theorem Dict.get?_set_self (d : Dict) (key : String) (v : Json) :
    (d.set key v).get? key = some v := by
  induction d with
  | nil => simp [Dict.set]
  | cons kv d ih =>
      obtain ⟨k, w⟩ := kv
      by_cases hk : k = key
      · simp [Dict.set, hk]
      · simp [Dict.set, hk, ih]

/-- and other keys are as before. -/
theorem Dict.get?_set_ne (d : Dict) {key key' : String} (h : key ≠ key') (v : Json) :
    (d.set key v).get? key' = d.get? key' := by
  induction d with
  | nil => simp [Dict.set, h]
  | cons kv d ih =>
      obtain ⟨k, w⟩ := kv
      by_cases hk : k = key
      · subst hk
        simp [Dict.set, h]
      · simp [Dict.set, hk, ih]

/-- Writing back what is there changes nothing. -/
theorem Dict.set_eq_self {d : Dict} {key : String} {v : Json} (h : d.get? key = some v) :
    d.set key v = d := by
  induction d with
  | nil => simp at h
  | cons kv d ih =>
      obtain ⟨k, w⟩ := kv
      by_cases hk : k = key
      · simp only [Dict.get?_cons, hk, if_true, Option.some.injEq] at h
        simp [Dict.set, hk, h]
      · simp only [Dict.get?_cons, hk, if_false] at h
        simp [Dict.set, hk, ih h]

/-- A key that is there keeps its value. -/
theorem Dict.setDefault_eq_self {d : Dict} {key : String} {w : Json} (h : d.get? key = some w)
    (v : Json) : d.setDefault key v = d := by
  simp [Dict.setDefault, h]

section

variable {K V : Type} [DecidableEq K]

/-- Item assignment, where only lookups are asked. -/
theorem lookup_insert_ite (s : AList fun _ : K => V) (k k' : K) (v : V) :
    (AList.insert k v s).lookup k' = if k' = k then some v else s.lookup k' := by
  by_cases h : k' = k
  · subst h
    simp
  · rw [AList.lookup_insert_ne h, if_neg h]

/-- Deletion. -/
theorem lookup_erase_ite (s : AList fun _ : K => V) (k k' : K) :
    (s.erase k).lookup k' = if k' = k then none else s.lookup k' := by
  by_cases h : k' = k
  · subst h
    simp
  · rw [AList.lookup_erase_ne h, if_neg h]

end

/-! ## §4. Operators. -/

/-- `bool(v)`. -/
def Json.truthy : Json → Bool
  | .null => false
  | .bool b => b
  | .int n => decide (n ≠ 0)
  | .flt q => decide (q ≠ 0)
  | .str s => decide (s ≠ "")
  | .arr xs => !xs.isEmpty
  | .obj kvs => !kvs.isEmpty

/-- `a or b`. -/
def Json.orElse (a b : Json) : Json := if a.truthy then a else b

@[simp] theorem Json.truthy_null : Json.null.truthy = false := rfl
@[simp] theorem Json.truthy_bool (b : Bool) : (Json.bool b).truthy = b := rfl
@[simp] theorem Json.truthy_str (s : String) : (Json.str s).truthy = decide (s ≠ "") := rfl
@[simp] theorem Json.truthy_arr (xs : List Json) : (Json.arr xs).truthy = !xs.isEmpty := rfl
@[simp] theorem Json.truthy_obj (d : Dict) : (Json.obj d).truthy = !d.isEmpty := rfl

/-- The number a value compares as: `True == 1 == 1.0`. -/
def Json.number? : Json → Option Rat
  | .bool b => some (if b then 1 else 0)
  | .int n => some n
  | .flt q => some q
  | _ => none

mutual
/-- `a == b`: numbers by value whatever their type, mappings whatever their
order. -/
def Json.pyEq : Json → Json → Bool
  | .arr xs, .arr ys => Json.pyEqList xs ys
  -- Keys are unique: one inclusion and the lengths are enough.
  | .obj xs, .obj ys => decide (xs.length = ys.length) && Json.pyEqDict xs ys
  | .null, .null => true
  | .str a, .str b => decide (a = b)
  -- What is left is equal as numbers or not at all.
  | a, b =>
      match a.number?, b.number? with
      | some p, some q => decide (p = q)
      | _, _ => false

/-- `==` on lists. -/
def Json.pyEqList : List Json → List Json → Bool
  | [], [] => true
  | x :: xs, y :: ys => Json.pyEq x y && Json.pyEqList xs ys
  | _, _ => false

/-- Every entry of the first mapping is in the second. -/
def Json.pyEqDict : List (String × Json) → Dict → Bool
  | [], _ => true
  | (k, x) :: xs, ys =>
      (match Dict.get? ys k with
       | some y => Json.pyEq x y
       | none => false) && Json.pyEqDict xs ys
end

/-- On strings `==` is equality of the strings. -/
@[simp] theorem Json.pyEq_str (a b : String) :
    Json.pyEq (.str a) (.str b) = decide (a = b) := by
  simp [Json.pyEq]

/-- `v.get(key)` on a value that ought to be a mapping. -/
def Json.pyGet (v : Json) (key : String) : Except PyError Json :=
  match v with
  | .obj d => .ok (Dict.getD d key .null)
  | _ => .error (.attributeError key)

/-- `v.get(key, default)` on a value that ought to be a mapping. -/
def Json.pyGetD (v : Json) (key : String) (default : Json) : Except PyError Json :=
  match v with
  | .obj d => .ok (Dict.getD d key default)
  | _ => .error (.attributeError key)

/-- The values `for x in v` runs over: elements, keys or characters. -/
def Json.pyIter : Json → Except PyError (List Json)
  | .arr xs => .ok xs
  | .obj d => .ok ((Dict.keys d).map .str)
  | .str s => .ok (s.toList.map fun c => .str (String.singleton c))
  | _ => .error (.typeError "not iterable")

@[simp] theorem Json.pyGet_obj (d : Dict) (key : String) :
    (Json.obj d).pyGet key = .ok (Dict.getD d key .null) := rfl

@[simp] theorem Json.pyGetD_obj (d : Dict) (key : String) (default : Json) :
    (Json.obj d).pyGetD key default = .ok (d.getD key default) := rfl

@[simp] theorem Json.pyIter_arr (xs : List Json) : (Json.arr xs).pyIter = .ok xs := rfl

/-- The mapping, when the value is one (`isinstance(v, dict)`). -/
def Json.dict? : Json → Option Dict
  | .obj d => some d
  | _ => none

@[simp] theorem Json.dict?_obj (d : Dict) : (Json.obj d).dict? = some d := rfl

end Py
