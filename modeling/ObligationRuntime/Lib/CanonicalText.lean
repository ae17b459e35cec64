/-
  ObligationRuntime.Lib.CanonicalText — `json.dumps(.., sort_keys=True,
  separators=(",", ":"), ensure_ascii=False)` of any value.

  The text of a value says which value it is and where it ends, before anything a number
  stops at: its first character says of which kind it is, a string ends at its quotation
  mark, and each element of a list or a mapping at its comma or at the bracket that
  closes.  With the keys in order, what the text does not say is the order they had.

  Main results:
    * `write_delimited` — a value without floats is determined by its text,
    * `canonicalText_eq_iff` — the canonical text says everything but the order of keys,
    * `canonicalDumps_eq` — on objects of strings it is the text of `CanonicalJson`.
-/
import ObligationRuntime.Lib.CanonicalJson
import ObligationRuntime.Lib.JsonText

namespace CanonicalJson

open Py JsonText

/-! ## §1. The writer. -/

section Writer

variable (F : FloatText)

mutual
/-- `json.dumps(.., separators=(",", ":"), ensure_ascii=False)`. -/
def write : Json → List Char
  | .null => ['n', 'u', 'l', 'l']
  | .bool true => ['t', 'r', 'u', 'e']
  | .bool false => ['f', 'a', 'l', 's', 'e']
  | .int n => intText n
  | .flt q => F.repr q
  | .str s => CanonicalJson.dumpStr s
  | .arr xs => '[' :: writeItems xs
  | .obj d => '\x7b' :: writeMembers d
/-- The elements of a list, and its bracket. -/
def writeItems : List Json → List Char
  | [] => [']']
  | x :: xs => write x ++ writeMoreItems xs
/-- The elements after one, and the bracket. -/
def writeMoreItems : List Json → List Char
  | [] => [']']
  | x :: xs => ',' :: (write x ++ writeMoreItems xs)
/-- The members of a mapping, and its brace. -/
def writeMembers : List (String × Json) → List Char
  | [] => ['\x7d']
  | (k, v) :: d => CanonicalJson.dumpStr k ++ ':' :: (write v ++ writeMoreMembers d)
/-- The members after one, and the brace. -/
def writeMoreMembers : List (String × Json) → List Char
  | [] => ['\x7d']
  | (k, v) :: d => ',' :: (CanonicalJson.dumpStr k ++ ':' :: (write v ++ writeMoreMembers d))
end

/-- `canonical_dumps`: with the keys of every mapping in order. -/
def canonicalText (v : Json) : String := String.ofList (write F v.canonical)

end Writer

/-! ## §2. A text is read in one way only. -/

section Reading

variable {F : FloatText}

/-- What a first character tells apart: the kinds of values, and a bracket that closes. -/
inductive Kind where
  | null
  | yes
  | no
  | number
  | text
  | list
  | mapping
  | closing
  deriving DecidableEq

/-- The kind of a value. -/
def kind : Json → Kind
  | .null => .null
  | .bool true => .yes
  | .bool false => .no
  | .int _ => .number
  | .flt _ => .number
  | .str _ => .text
  | .arr _ => .list
  | .obj _ => .mapping

/-- The kind of what starts with a character. -/
def kindOf (c : Char) : Kind :=
  if c = 'n' then .null
  else if c = 't' then .yes
  else if c = 'f' then .no
  else if c = JsonText.quote then .text
  else if c = '[' then .list
  else if c = '\x7b' then .mapping
  else if c = ']' then .closing
  else .number

/-- A digit starts a number. -/
theorem kindOf_digit {c : Char} (h : c.isDigit = true) : kindOf c = .number := by
  have hne : ∀ d : Char, d.isDigit = false → c ≠ d := fun d hd => ne_of_isDigit h hd
  unfold kindOf
  rw [if_neg (hne 'n' rfl), if_neg (hne 't' rfl), if_neg (hne 'f' rfl), if_neg (hne _ rfl),
    if_neg (hne '[' rfl), if_neg (hne '\x7b' rfl), if_neg (hne ']' rfl)]

variable (F) in
/-- A value starts with a character of its kind. -/
theorem write_kind {v : Json} (h : v.integral = true) :
    ∃ c w, write F v = c :: w ∧ kindOf c = kind v := by
  cases v with
  | null => exact ⟨'n', _, rfl, rfl⟩
  | bool b => cases b <;> exact ⟨_, _, rfl, rfl⟩
  | int n =>
      obtain ⟨c, w, hw, hc⟩ := intText_cons n
      refine ⟨c, w, hw, ?_⟩
      rcases hc with hdigit | rfl
      · exact kindOf_digit hdigit
      · rfl
  | flt q => cases h
  | str s => exact ⟨JsonText.quote, _, rfl, rfl⟩
  | arr xs => exact ⟨'[', _, rfl, rfl⟩
  | obj d => exact ⟨'\x7b', _, rfl, rfl⟩

/-- Values with one text are of one kind. -/
theorem kind_eq {v w : Json} {r r' : List Char} (hv : v.integral = true) (hw : w.integral = true)
    (he : write F v ++ r = write F w ++ r') : kind v = kind w := by
  obtain ⟨c, t, ht, hc⟩ := write_kind F hv
  obtain ⟨c', t', ht', hc'⟩ := write_kind F hw
  rw [ht, ht'] at he
  have hchar : c = c' := (List.cons.inj he).1
  rw [← hc, ← hc', hchar]

/-- No value starts with the bracket that closes a list. -/
theorem write_ne_bracket {v : Json} {r r' : List Char} (hv : v.integral = true) :
    write F v ++ r ≠ ']' :: r' := by
  intro he
  obtain ⟨c, t, ht, hc⟩ := write_kind F hv
  rw [ht] at he
  have hbracket : c = ']' := (List.cons.inj he).1
  subst hbracket
  cases v with
  | bool b => cases b <;> cases hc
  | _ => cases hc

/-- A number says which it is where nothing follows that could go on with it. -/
theorem intText_delimited {m n : Int} {r r' : List Char} (hr : Stops r) (hr' : Stops r')
    (he : intText m ++ r = intText n ++ r') : m = n ∧ r = r' := by
  have hscan := scanNumber_intText noFloats m hr
  rw [he, scanNumber_intText noFloats n hr'] at hscan
  have hpair := Prod.mk.inj (Option.some.inj hscan)
  exact ⟨(Json.int.inj hpair.1).symm, hpair.2.symm⟩

/-- What follows a value in a list stops a number, -/
theorem stops_moreItems (xs : List Json) (r : List Char) : Stops (writeMoreItems F xs ++ r) := by
  cases xs with
  | nil => exact stops_bracket r
  | cons x xs => exact stops_comma _

/-- and so does what follows one in a mapping. -/
theorem stops_moreMembers (d : List (String × Json)) (r : List Char) :
    Stops (writeMoreMembers F d ++ r) := by
  cases d with
  | nil => exact stops_brace r
  | cons m d => exact stops_comma _

mutual
/-- **A value without floats is determined by its text**, which ends where it ends. -/
theorem write_delimited : ∀ (v w : Json), v.all Json.integral = true → w.all Json.integral = true →
    ∀ {r r' : List Char}, Stops r → Stops r' → write F v ++ r = write F w ++ r' → v = w ∧ r = r'
  -- The first character tells the kind, so two values of one text are of one kind.
  | .null, w, hv, hw, r, r', _, _, he => by
      have hkind := kind_eq (Json.all_self hv) (Json.all_self hw) he
      cases w with
      | null => exact ⟨rfl, List.append_cancel_left he⟩
      | bool b => cases b <;> cases hkind
      | _ => cases hkind
  | .bool a, w, hv, hw, r, r', _, _, he => by
      have hkind := kind_eq (Json.all_self hv) (Json.all_self hw) he
      cases w with
      | bool b =>
          cases a <;> cases b
          · exact ⟨rfl, List.append_cancel_left he⟩
          · cases hkind
          · cases hkind
          · exact ⟨rfl, List.append_cancel_left he⟩
      | _ => cases a <;> cases hkind
  | .int m, w, hv, hw, r, r', hr, hr', he => by
      have hkind := kind_eq (Json.all_self hv) (Json.all_self hw) he
      cases w with
      | int n =>
          obtain ⟨rfl, hrest⟩ := intText_delimited hr hr' he
          exact ⟨rfl, hrest⟩
      | flt q => cases hw
      | bool b => cases b <;> cases hkind
      | _ => cases hkind
  | .flt q, w, hv, _, r, r', _, _, _ => by cases hv
  | .str s, w, hv, hw, r, r', _, _, he => by
      have hkind := kind_eq (Json.all_self hv) (Json.all_self hw) he
      cases w with
      | str t =>
          obtain ⟨rfl, hrest⟩ := delimited_dumpStr s t r r' he
          exact ⟨rfl, hrest⟩
      | bool b => cases b <;> cases hkind
      | _ => cases hkind
  | .arr xs, w, hv, hw, r, r', _, _, he => by
      have hkind := kind_eq (Json.all_self hv) (Json.all_self hw) he
      cases w with
      | arr ys =>
          obtain ⟨rfl, hrest⟩ := writeItems_delimited xs ys (Json.allList_of_arr hv)
            (Json.allList_of_arr hw) (List.cons.inj he).2
          exact ⟨rfl, hrest⟩
      | bool b => cases b <;> cases hkind
      | _ => cases hkind
  | .obj d, w, hv, hw, r, r', _, _, he => by
      have hkind := kind_eq (Json.all_self hv) (Json.all_self hw) he
      cases w with
      | obj e =>
          obtain ⟨rfl, hrest⟩ := writeMembers_delimited d e (Json.allDict_of_obj hv)
            (Json.allDict_of_obj hw) (List.cons.inj he).2
          exact ⟨rfl, hrest⟩
      | bool b => cases b <;> cases hkind
      | _ => cases hkind
/-- The elements of a list are determined by their text: from the first, -/
theorem writeItems_delimited : ∀ (xs ys : List Json), Json.allList Json.integral xs = true →
    Json.allList Json.integral ys = true → ∀ {r r' : List Char},
      writeItems F xs ++ r = writeItems F ys ++ r' → xs = ys ∧ r = r'
  | [], ys, _, hys, r, r', he => by
      cases ys with
      | nil => exact ⟨rfl, List.append_cancel_left he⟩
      | cons y ys =>
          rw [writeItems, writeItems, List.append_assoc] at he
          exact absurd he.symm (write_ne_bracket (Json.all_self (Bool.and_eq_true_iff.mp hys).1))
  | x :: xs, ys, hxs, hys, r, r', he => by
      obtain ⟨hx, hmx⟩ := Bool.and_eq_true_iff.mp hxs
      cases ys with
      | nil =>
          rw [writeItems, writeItems, List.append_assoc] at he
          exact absurd he (write_ne_bracket (Json.all_self hx))
      | cons y ys =>
          obtain ⟨hy, hmy⟩ := Bool.and_eq_true_iff.mp hys
          rw [writeItems, writeItems, List.append_assoc, List.append_assoc] at he
          obtain ⟨rfl, hmore⟩ := write_delimited x y hx hy (stops_moreItems xs r)
            (stops_moreItems ys r') he
          obtain ⟨rfl, hrest⟩ := writeMoreItems_delimited xs ys hmx hmy hmore
          exact ⟨rfl, hrest⟩
/-- and from a comma on. -/
theorem writeMoreItems_delimited : ∀ (xs ys : List Json), Json.allList Json.integral xs = true →
    Json.allList Json.integral ys = true → ∀ {r r' : List Char},
      writeMoreItems F xs ++ r = writeMoreItems F ys ++ r' → xs = ys ∧ r = r'
  | [], ys, _, _, r, r', he => by
      cases ys with
      | nil => exact ⟨rfl, List.append_cancel_left he⟩
      | cons y ys => exact absurd (List.cons.inj he).1 (by decide)
  | x :: xs, ys, hxs, hys, r, r', he => by
      obtain ⟨hx, hmx⟩ := Bool.and_eq_true_iff.mp hxs
      cases ys with
      | nil => exact absurd (List.cons.inj he).1 (by decide)
      | cons y ys =>
          obtain ⟨hy, hmy⟩ := Bool.and_eq_true_iff.mp hys
          simp only [writeMoreItems, List.cons_append, List.append_assoc, List.cons.injEq,
            true_and] at he
          obtain ⟨rfl, hmore⟩ := write_delimited x y hx hy (stops_moreItems xs r)
            (stops_moreItems ys r') he
          obtain ⟨rfl, hrest⟩ := writeMoreItems_delimited xs ys hmx hmy hmore
          exact ⟨rfl, hrest⟩
/-- The members of a mapping likewise: from the first, -/
theorem writeMembers_delimited : ∀ (d e : List (String × Json)),
    Json.allDict Json.integral d = true → Json.allDict Json.integral e = true →
    ∀ {r r' : List Char}, writeMembers F d ++ r = writeMembers F e ++ r' → d = e ∧ r = r'
  | [], e, _, _, r, r', he => by
      cases e with
      | nil => exact ⟨rfl, List.append_cancel_left he⟩
      | cons m e => exact absurd (List.cons.inj he).1 (by decide)
  | (k, v) :: d, e, hd, hint, r, r', he => by
      obtain ⟨hv, hmd⟩ := Bool.and_eq_true_iff.mp hd
      cases e with
      | nil => exact absurd (List.cons.inj he).1 (by decide)
      | cons m e =>
          obtain ⟨l, w⟩ := m
          obtain ⟨hw, hme⟩ := Bool.and_eq_true_iff.mp hint
          simp only [writeMembers, List.cons_append, List.append_assoc] at he
          obtain ⟨rfl, hcolon⟩ := delimited_dumpStr k l _ _ he
          obtain ⟨rfl, hmore⟩ := write_delimited v w hv hw (stops_moreMembers d r)
            (stops_moreMembers e r') (List.cons.inj hcolon).2
          obtain ⟨rfl, hrest⟩ := writeMoreMembers_delimited d e hmd hme hmore
          exact ⟨rfl, hrest⟩
/-- and from a comma on. -/
theorem writeMoreMembers_delimited : ∀ (d e : List (String × Json)),
    Json.allDict Json.integral d = true → Json.allDict Json.integral e = true →
    ∀ {r r' : List Char}, writeMoreMembers F d ++ r = writeMoreMembers F e ++ r' → d = e ∧ r = r'
  | [], e, _, _, r, r', he => by
      cases e with
      | nil => exact ⟨rfl, List.append_cancel_left he⟩
      | cons m e => exact absurd (List.cons.inj he).1 (by decide)
  | (k, v) :: d, e, hd, hint, r, r', he => by
      obtain ⟨hv, hmd⟩ := Bool.and_eq_true_iff.mp hd
      cases e with
      | nil => exact absurd (List.cons.inj he).1 (by decide)
      | cons m e =>
          obtain ⟨l, w⟩ := m
          obtain ⟨hw, hme⟩ := Bool.and_eq_true_iff.mp hint
          simp only [writeMoreMembers, List.cons_append, List.append_assoc, List.cons.injEq,
            true_and] at he
          obtain ⟨rfl, hcolon⟩ := delimited_dumpStr k l _ _ he
          obtain ⟨rfl, hmore⟩ := write_delimited v w hv hw (stops_moreMembers d r)
            (stops_moreMembers e r') (List.cons.inj hcolon).2
          obtain ⟨rfl, hrest⟩ := writeMoreMembers_delimited d e hmd hme hmore
          exact ⟨rfl, hrest⟩
end

/-- **The canonical text says everything but the order of keys.** -/
theorem canonicalText_eq_iff {v w : Json} (hkeys : v.UniqueKeys)
    (hv : v.all Json.integral = true) (hw : w.all Json.integral = true) :
    canonicalText F v = canonicalText F w ↔ v.Reordered w := by
  rw [Json.reordered_iff_same hkeys]
  have hstops : Stops [] := fun c hc => by cases hc
  constructor
  · intro h
    have htext : write F v.canonical = write F w.canonical := String.ofList_injective h
    have happ : write F v.canonical ++ [] = write F w.canonical ++ [] := by rw [htext]
    exact (write_delimited _ _ (Json.integral_sortKeys v hv) (Json.integral_sortKeys w hw)
      hstops hstops happ).1
  · intro h
    unfold canonicalText
    rw [show v.canonical = w.canonical from h]

end Reading

/-! ## §3. Objects of strings. -/

/-- A value of an object, as any other. -/
def Plain.toJson : Plain → Json
  | .null => .null
  | .str s => .str s
  | .strs xs => .arr (xs.map .str)

/-- The members of an object. -/
def membersOf (d : List (String × Plain)) : Dict := d.map fun m => (m.1, m.2.toJson)

section Objects

variable {F : FloatText}

/-- The elements of a list of strings are written as `CanonicalJson` does, -/
theorem writeMoreItems_strs (xs : List String) :
    writeMoreItems F (xs.map .str) =
      closed (fun y => ',' :: CanonicalJson.dumpStr y) ']' xs := by
  induction xs with
  | nil => rfl
  | cons x xs ih =>
      rw [List.map_cons, writeMoreItems, ih]
      simp [closed, write]

/-- a value is, -/
theorem write_toJson (p : Plain) : write F p.toJson = p.dump := by
  cases p with
  | null => rfl
  | str s => rfl
  | strs xs =>
      cases xs with
      | nil => rfl
      | cons x xs =>
          show '[' :: (CanonicalJson.dumpStr x ++ writeMoreItems F (xs.map .str)) = _
          rw [writeMoreItems_strs]
          rfl

/-- the members are, -/
theorem writeMoreMembers_membersOf (d : List (String × Plain)) :
    writeMoreMembers F (membersOf d) = closed (fun m => ',' :: dumpMember m) '\x7d' d := by
  induction d with
  | nil => rfl
  | cons m d ih =>
      show ',' :: (CanonicalJson.dumpStr m.1 ++ ':' :: (write F m.2.toJson ++
        writeMoreMembers F (membersOf d))) = _
      rw [ih, write_toJson]
      simp [closed, dumpMember]

/-- and a whole object. -/
theorem dumps_eq (d : List (String × Plain)) :
    dumps d = String.ofList (write F (.obj (membersOf d))) := by
  cases d with
  | nil => rfl
  | cons m d =>
      have hmembers : writeMembers F (membersOf (m :: d)) = items dumpMember '\x7d' (m :: d) := by
        show CanonicalJson.dumpStr m.1 ++ ':' :: (write F m.2.toJson ++
          writeMoreMembers F (membersOf d)) = _
        rw [writeMoreMembers_membersOf, write_toJson]
        simp [items, dumpMember]
      unfold dumps
      rw [← hmembers]
      rfl

/-- Strings and lists of strings have no keys. -/
theorem sortKeys_toJson (p : Plain) : p.toJson.sortKeys textOrder = p.toJson := by
  cases p with
  | null => rfl
  | str s => rfl
  | strs xs =>
      refine congrArg Json.arr ?_
      induction xs with
      | nil => rfl
      | cons x xs ih => exact congrArg (Json.str x :: ·) ih

/-- In an object of strings nothing inside has keys to sort. -/
theorem sortKeysDict_membersOf (d : List (String × Plain)) :
    Json.sortKeysDict textOrder (membersOf d) = membersOf d := by
  rw [Json.sortKeysDict_eq, membersOf, List.map_map]
  refine List.map_congr_left fun m _ => ?_
  show (m.1, m.2.toJson.sortKeys textOrder) = _
  rw [sortKeys_toJson]

/-- Sorting commutes with writing: one member, -/
theorem orderedInsert_membersOf (m : String × Plain) (d : List (String × Plain)) :
    membersOf (d.orderedInsert (fun m m' => m.1 ≤ m'.1) m) =
      (membersOf d).orderedInsert (fun m m' => textOrder m.1 m'.1 = true) (m.1, m.2.toJson) := by
  induction d with
  | nil => rfl
  | cons m' d ih =>
      have hmembers : membersOf (m' :: d) = (m'.1, m'.2.toJson) :: membersOf d := rfl
      rw [hmembers, List.orderedInsert, List.orderedInsert]
      by_cases hle : m.1 ≤ m'.1
      · rw [if_pos hle, if_pos (by simpa [textOrder] using hle)]
        rfl
      · rw [if_neg hle, if_neg (by simpa [textOrder] using hle), ← ih]
        rfl

/-- and all of them. -/
theorem sortBy_membersOf (d : List (String × Plain)) :
    Dict.sortBy textOrder (membersOf d) =
      membersOf (d.insertionSort fun m m' => m.1 ≤ m'.1) := by
  induction d with
  | nil => rfl
  | cons m d ih =>
      rw [List.insertionSort_cons, orderedInsert_membersOf, ← ih]
      rfl

/-- **On objects of strings** the canonical text is the one written member by member. -/
theorem canonicalDumps_eq (d : List (String × Plain)) :
    canonicalDumps d = canonicalText F (.obj (membersOf d)) := by
  have hcanonical : (Json.obj (membersOf d)).canonical =
      .obj (membersOf (d.insertionSort fun m m' => m.1 ≤ m'.1)) := by
    show Json.obj (Dict.sortBy textOrder (Json.sortKeysDict textOrder (membersOf d))) = _
    rw [sortKeysDict_membersOf, sortBy_membersOf]
  rw [canonicalDumps, dumps_eq (F := F), canonicalText, hcanonical]

end Objects

end CanonicalJson
