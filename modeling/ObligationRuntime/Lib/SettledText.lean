/-
  ObligationRuntime.Lib.SettledText — `re.sub` over its own output.

  A pattern `settles` on a mask when what it matches ends before a character at which no
  match starts, when the mask is matched in place of what it stands for, and when putting
  the mask there makes no earlier place match.  The output of such a `sub` is then marked as
  the text was, with the mask in every part that was replaced: nothing new is found in it,
  and `sub` leaves it as it is.

  Main results:
    * `marks_sub` — the marks of the output,
    * `sub_sub` — `sub` is idempotent,
    * `runs_sub` — the mask is all that is found in the output.
-/
import ObligationRuntime.Lib.MarkedText

namespace MarkedText

/-! ## §1. Marks with the mask. -/

/-- The marks with the mask in every part that is replaced. -/
def settle (mask : List Char) : Marked → Marked
  | [] => []
  | (c, .kept) :: ms => (c, .kept) :: settle mask ms
  | (_, .first) :: ms => partMarks mask ++ settle mask ms
  | (_, .more) :: ms => settle mask ms

section

variable {mask : List Char}

/-- The output is the text of the marks with the mask, -/
theorem erase_settle (hmask : mask ≠ []) (ms : Marked) :
    erase mask (settle mask ms) = erase mask ms := by
  induction ms with
  | nil => rfl
  | cons m ms ih =>
      obtain ⟨c, mark⟩ := m
      cases mark with
      | kept => rw [settle, erase_cons, erase_cons, ih]
      | first => rw [settle, erase_append, erase_partMarks hmask, erase_cons, ih]; rfl
      | more => rw [settle, erase_cons, ih]; rfl

/-- What is kept stays, -/
theorem settle_kept (K : List Char) (ms : Marked) :
    settle mask (K.map (fun c => (c, .kept)) ++ ms) =
      K.map (fun c => (c, .kept)) ++ settle mask ms := by
  induction K with
  | nil => rfl
  | cons c K ih => rw [List.map_cons, List.cons_append, settle, ih]; rfl

/-- and a part becomes the mask. -/
theorem settle_partMarks {s : List Char} (h : s ≠ []) (ms : Marked) :
    settle mask (partMarks s ++ ms) = partMarks mask ++ settle mask ms := by
  obtain ⟨c, cs, rfl⟩ := List.exists_cons_of_ne_nil h
  rw [partMarks, List.cons_append, settle]
  congr 1
  induction cs with
  | nil => rfl
  | cons d cs ih => exact ih (List.cons_ne_nil c cs)

end

/-! ## §2. Patterns that settle. -/

/-- The text is over, or goes on with a character that stops a match. -/
def Stopped (stop : Char → Bool) (cs : List Char) : Prop :=
  ∀ c rest, cs = c :: rest → stop c = true

/-- A pattern that settles on a mask: the matches end where one of the characters `stop`
comes, at which none starts. -/
structure Settles (p : Pattern) (stop : Char → Bool) (mask : List Char) : Prop where
  mask_ne : mask ≠ []
  stops : ∀ {before c cs}, stop c = true → p before (c :: cs) = none
  bounds : ∀ {before cs k r}, p before cs = some (k, r) → 0 < k ∧ 0 < r ∧ k + r ≤ cs.length
  ends : ∀ {before cs k r}, p before cs = some (k, r) → Stopped stop (cs.drop (k + r))
  again : ∀ {before cs k r tail}, p before cs = some (k, r) → Stopped stop tail →
    p before (cs.take k ++ (mask ++ tail)) = some (k, mask.length)
  fresh : ∀ {before w cs k r}, p before (w ++ cs) = none → w ≠ [] →
    p w.getLast? cs = some (k, r) → ∀ tail, p before (w ++ (cs.take k ++ (mask ++ tail))) = none

section

variable {p : Pattern} {stop : Char → Bool} {mask : List Char} {before : Option Char}

/-- The marks of a text at some place. -/
def scan (p : Pattern) (before : Option Char) (cs : List Char) : Marked :=
  marksFrom p before 0 0 .first cs

/-- Where nothing matches the character is kept. -/
theorem scan_none {c : Char} {cs : List Char} (h : p before (c :: cs) = none) :
    scan p before (c :: cs) = (c, .kept) :: scan p (some c) cs := by
  rw [scan, marksFrom, h]
  rfl

/-- The part in front of a match is kept, -/
theorem marksFrom_kept (before : Option Char) (K cs : List Char) (r : Nat) (mark : Mark) :
    ∃ b, marksFrom p before K.length r mark (K ++ cs) =
      K.map (fun c => (c, .kept)) ++ marksFrom p b 0 r mark cs := by
  induction K generalizing before with
  | nil => exact ⟨before, rfl⟩
  | cons c K ih =>
      obtain ⟨b, hb⟩ := ih (some c)
      exact ⟨b, by rw [List.length_cons, List.cons_append, marksFrom, hb]; rfl⟩

/-- and the match is taken out. -/
theorem marksFrom_more (before : Option Char) (S cs : List Char) :
    ∃ b, marksFrom p before 0 S.length .more (S ++ cs) =
      S.map (fun c => (c, .more)) ++ scan p b cs := by
  induction S generalizing before with
  | nil =>
      refine ⟨before, ?_⟩
      cases cs <;> rfl
  | cons c S ih =>
      obtain ⟨b, hb⟩ := ih (some c)
      exact ⟨b, by rw [List.length_cons, List.cons_append, marksFrom, hb]; rfl⟩

/-- **The marks of a match**, and of what follows it. -/
theorem scan_match {K S rest : List Char} (hK : K ≠ []) (hS : S ≠ [])
    (h : p before (K ++ (S ++ rest)) = some (K.length, S.length)) :
    ∃ b, scan p before (K ++ (S ++ rest)) =
      K.map (fun c => (c, .kept)) ++ (partMarks S ++ scan p b rest) := by
  obtain ⟨c, K, rfl⟩ := List.exists_cons_of_ne_nil hK
  obtain ⟨d, S, rfl⟩ := List.exists_cons_of_ne_nil hS
  obtain ⟨b, hb⟩ := marksFrom_kept (p := p) (some c) K ((d :: S) ++ rest)
    (d :: S).length .first
  obtain ⟨b', hb'⟩ := marksFrom_more (p := p) (some d) S rest
  refine ⟨b', ?_⟩
  rw [List.cons_append] at h ⊢
  rw [scan, marksFrom, h]
  simp only [List.length_cons, Nat.add_sub_cancel]
  rw [List.length_cons] at hb
  rw [hb, List.cons_append, marksFrom, hb']
  rfl

/-- A match splits the text. -/
theorem Settles.split (hp : Settles p stop mask) {cs : List Char} {k r : Nat}
    (h : p before cs = some (k, r)) :
    ∃ K S rest, cs = K ++ (S ++ rest) ∧ K ≠ [] ∧ S ≠ [] ∧ k = K.length ∧ r = S.length ∧
      cs.take k = K ∧ cs.drop (k + r) = rest := by
  obtain ⟨hk, hr, hlength⟩ := hp.bounds h
  refine ⟨cs.take k, (cs.drop k).take r, cs.drop (k + r), ?_, ?_, ?_, ?_, ?_, rfl, rfl⟩
  · rw [← List.drop_drop, List.take_append_drop, List.take_append_drop]
  · simp only [ne_eq, List.take_eq_nil_iff, not_or]
    exact ⟨by omega, fun hnil => by rw [hnil] at hlength; simp at hlength; omega⟩
  · intro hnil
    have hlen := congrArg List.length hnil
    simp only [List.length_take, List.length_drop, List.length_nil] at hlen
    omega
  · rw [List.length_take]; omega
  · rw [List.length_take, List.length_drop]; omega

/-- The output at some place. -/
def output (p : Pattern) (mask : List Char) (before : Option Char) (cs : List Char) : List Char :=
  erase mask (scan p before cs)

/-- Where nothing matches the character is put out, -/
theorem output_none {c : Char} {cs : List Char} (h : p before (c :: cs) = none) :
    output p mask before (c :: cs) = c :: output p mask (some c) cs := by
  rw [output, scan_none h]
  rfl

/-- and where something does the mask is. -/
theorem output_match (mask : List Char) {K S rest : List Char} (hK : K ≠ []) (hS : S ≠ [])
    (h : p before (K ++ (S ++ rest)) = some (K.length, S.length)) :
    ∃ b, scan p before (K ++ (S ++ rest)) =
        K.map (fun c => (c, .kept)) ++ (partMarks S ++ scan p b rest) ∧
      output p mask before (K ++ (S ++ rest)) = K ++ (mask ++ output p mask b rest) := by
  obtain ⟨b, hb⟩ := scan_match hK hS h
  refine ⟨b, hb, ?_⟩
  rw [output, hb, erase_append, erase_append, erase_map_kept, erase_partMarks hS]
  rfl

/-- The output starts as the text does. -/
theorem output_cons (hp : Settles p stop mask) (before : Option Char) (c : Char) (cs : List Char) :
    ∃ rest, output p mask before (c :: cs) = c :: rest := by
  cases h : p before (c :: cs) with
  | none => exact ⟨_, output_none h⟩
  | some m =>
      obtain ⟨K, S, rest, hcs, hK, hS, hk, hr, -, -⟩ := hp.split h
      rw [hcs, show m = (K.length, S.length) from Prod.ext hk hr] at h
      obtain ⟨b, -, hout⟩ := output_match mask hK hS h
      obtain ⟨d, K, rfl⟩ := List.exists_cons_of_ne_nil hK
      obtain ⟨rfl, -⟩ := List.cons.inj hcs
      refine ⟨K ++ (mask ++ output p mask b rest), ?_⟩
      rw [hcs]
      exact hout

/-- What was stopped stays so in the output. -/
theorem Stopped.output (hp : Settles p stop mask) (before : Option Char) {cs : List Char}
    (h : Stopped stop cs) :
    Stopped stop (output p mask before cs) := by
  intro d rest hout
  cases cs with
  | nil => cases hout
  | cons c cs =>
      obtain ⟨rest', hrest⟩ := output_cons hp before c cs
      rw [hrest] at hout
      obtain ⟨rfl, -⟩ := List.cons.inj hout
      exact h c cs rfl

/-- **The output up to the first match**: the text, and then the mask. -/
theorem output_cases (hp : Settles p stop mask) (c : Char) (cs : List Char) :
    output p mask (some c) cs = cs ∨
      ∃ w cs' k r tail, cs = w ++ cs' ∧ p (c :: w).getLast? cs' = some (k, r) ∧
        output p mask (some c) cs = w ++ (cs'.take k ++ (mask ++ tail)) := by
  induction cs generalizing c with
  | nil => exact .inl rfl
  | cons d cs ih =>
      cases h : p (some c) (d :: cs) with
      | none =>
          rw [output_none h]
          rcases ih d with hsame | ⟨w, cs', k, r, tail, rfl, hmatch, hout⟩
          · exact .inl (by rw [hsame])
          · exact .inr ⟨d :: w, cs', k, r, tail, rfl, hmatch, by rw [hout]; rfl⟩
      | some m =>
          obtain ⟨K, S, rest, hcs, hK, hS, hk, hr, htake, -⟩ := hp.split h
          have hlengths : p (some c) (K ++ (S ++ rest)) = some (K.length, S.length) := by
            rw [← hcs, h, show m = (K.length, S.length) from Prod.ext hk hr]
          obtain ⟨b, -, hout⟩ := output_match mask hK hS hlengths
          refine .inr ⟨[], d :: cs, m.1, m.2, output p mask b rest, rfl, h, ?_⟩
          rw [htake, hcs]
          exact hout

/-- **The marks of the output**, at any place; the character before it does not matter when no
match can start there. -/
theorem scan_output (hp : Settles p stop mask) (n : Nat) :
    ∀ (cs : List Char), cs.length ≤ n → ∀ before before' : Option Char,
      before = before' ∨ Stopped stop cs →
        scan p before' (output p mask before cs) = settle mask (scan p before cs) := by
  induction n with
  | zero =>
      intro cs hn _ _ _
      rw [List.length_eq_zero_iff.mp (Nat.le_zero.mp hn)]
      rfl
  | succ n ih =>
      intro cs hn before before' hbefore
      cases cs with
      | nil => rfl
      | cons c cs =>
          cases h : p before (c :: cs) with
          | none =>
              -- No match starts in the output either.
              have hnone : p before' (c :: output p mask (some c) cs) = none := by
                rcases hbefore with rfl | hstopped
                · rcases output_cases hp c cs with hsame | ⟨w, cs', k, r, tail, rfl, hm, hout⟩
                  · rw [hsame]
                    exact h
                  · rw [hout]
                    exact hp.fresh (w := c :: w) h (List.cons_ne_nil c w) hm tail
                · exact hp.stops (hstopped c cs rfl)
              rw [output_none h, scan_none hnone, scan_none h, settle]
              rw [ih cs (by simpa using hn) (some c) (some c) (.inl rfl)]
          | some m =>
              have hsame : before = before' := by
                refine hbefore.resolve_right fun hstopped => ?_
                rw [hp.stops (hstopped c cs rfl)] at h
                cases h
              subst hsame
              obtain ⟨K, S, rest, hcs, hK, hS, hk, hr, htake, hdrop⟩ := hp.split h
              have hstopped := hp.ends h
              have hagain : ∀ tail, Stopped stop tail →
                  p before (K ++ (mask ++ tail)) = some (K.length, mask.length) := by
                intro tail htail
                have hm := hp.again (k := m.1) (r := m.2) h htail
                rwa [htake, hk] at hm
              rw [hdrop] at hstopped
              have hlengths : p before (K ++ (S ++ rest)) = some (K.length, S.length) := by
                rw [← hcs, h, show m = (K.length, S.length) from Prod.ext hk hr]
              obtain ⟨b, hscan, hout⟩ := output_match mask hK hS hlengths
              obtain ⟨b', hscan'⟩ := scan_match hK hp.mask_ne
                (hagain _ (hstopped.output hp b))
              have hrest : rest.length ≤ n := by
                have hlen := congrArg List.length hcs
                have hKpos := List.length_pos_iff.mpr hK
                simp only [List.length_append, List.length_cons] at hlen hn
                omega
              rw [hcs, hout, hscan', hscan, settle_kept, settle_partMarks hS,
                ih rest hrest b b' (.inr hstopped)]

/-- **The marks of the output** are those of the text, with the mask. -/
theorem marks_sub (hp : Settles p stop mask) (cs : List Char) :
    marks p (sub p mask cs) = settle mask (marks p cs) :=
  scan_output hp cs.length cs le_rfl none none (.inl rfl)

/-- **`sub` is idempotent.** -/
theorem sub_sub (hp : Settles p stop mask) (cs : List Char) :
    sub p mask (sub p mask cs) = sub p mask cs := by
  rw [sub, marks_sub hp, erase_settle hp.mask_ne]
  rfl

end

end MarkedText
