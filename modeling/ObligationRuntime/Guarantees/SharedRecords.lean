/-
  ObligationRuntime.Guarantees.SharedRecords — a log record and the filters of many handlers.

  At each start of the application every handler of the root logger is given one more filter,
  and a filter changes the record itself, which is the same for all handlers.  So a record is
  redacted as often as there are filters before it is written.  Once is the same as many
  times: what stands for a secret is a secret to the pattern, and is replaced by itself, and
  no match comes to be where there was none.

  Main results:
    * `secretMatch_settles` — the pattern settles on the mask,
    * `LogRecord.filter_twice` — a filtered record is left as it is,
    * `shared_record_redacted` — what each handler writes, once the application was started.
-/
import ObligationRuntime.Guarantees.RedactedLogs
import ObligationRuntime.Lib.SettledText

namespace ObligationRuntime

open Py MarkedText PercentFormat

namespace Gateway

/-! ## §1. The pattern settles. -/

section

variable {isAlnum : Char → Bool} {before : Option Char} {cs : List Char}

/-- The names have lower-case letters and low lines only. -/
theorem mem_secretKeys {key : List Char} (h : key ∈ secretKeys) :
    key ≠ [] ∧ ∀ c ∈ key, isSecretChar c = true ∧ c ≠ '=' ∧ c ≠ ':' := by
  have hall : (secretKeys.all fun key => decide (key ≠ []) && key.all fun c =>
      isSecretChar c && decide (c ≠ '=') && decide (c ≠ ':')) = true := by decide
  have hkey := List.all_eq_true.mp hall key h
  simp only [Bool.and_eq_true, decide_eq_true_eq] at hkey
  refine ⟨hkey.1, fun c hc => ?_⟩
  have hchar := List.all_eq_true.mp hkey.2 c hc
  simp only [Bool.and_eq_true, decide_eq_true_eq] at hchar
  exact ⟨hchar.1.1, hchar.1.2, hchar.2⟩

/-- `re.IGNORECASE` leaves the characters that no secret has. -/
theorem foldCase_of_not_secret {c : Char} (h : isSecretChar c = false) : foldCase c = c := by
  have hlower : c.toLower = c ∧ c.toNat ≠ 0x17f ∧ c.toNat ≠ 0x212a ∧ c.toNat ≠ 0x130 ∧
      c.toNat ≠ 0x131 := by
    rw [isSecretChar, Bool.and_eq_false_iff] at h
    rcases h with hspace | hlisted
    · have hnat : isSpace c = true := by simpa using hspace
      simp only [isSpace, Bool.or_eq_true, Bool.and_eq_true, decide_eq_true_eq, beq_iff_eq] at hnat
      refine ⟨?_, by omega, by omega, by omega, by omega⟩
      unfold Char.toLower
      split
      next hupper =>
        have hbounds : 65 ≤ c.toNat ∧ c.toNat ≤ 90 := hupper
        omega
      · rfl
    · have hmem : c ∈ [',', ')', '}', ']', '\x22'] :=
        Decidable.not_not.mp (of_decide_eq_false hlisted)
      simp only [List.mem_cons, List.not_mem_nil, or_false] at hmem
      rcases hmem with rfl | rfl | rfl | rfl | rfl <;> decide
  obtain ⟨hlower, h1, h2, h3, h4⟩ := hlower
  simp [foldCase, hlower, h1, h2, h3, h4]

/-- The secret after a sign. -/
def secretOf (cs : List Char) : List Char := (cs.dropWhile isSpace).takeWhile isSecretChar

/-- A setting's name, and blanks: what comes before the sign. -/
def Named (isAlnum : Char → Bool) (before : Option Char) (cs : List Char) : Prop :=
  before.any (isWordChar isAlnum) = false ∧
    ∃ key ∈ secretKeys, (cs.take key.length).map foldCase = key ∧
      ∀ c ∈ cs.drop key.length, isSpace c = true

theorem drop_length_takeWhile (p : Char → Bool) (cs : List Char) :
    cs.drop (cs.takeWhile p).length = cs.dropWhile p := by
  induction cs with
  | nil => rfl
  | cons c cs ih =>
      by_cases hc : p c = true
      · rw [List.takeWhile_cons_of_pos hc, List.dropWhile_cons_of_pos hc, ← ih]
        rfl
      · rw [List.takeWhile_cons_of_neg hc, List.dropWhile_cons_of_neg hc]
        rfl

/-- The name that is found is the only one there. -/
theorem find_secretKey {key cs : List Char} (hkey : key ∈ secretKeys)
    (hcs : (cs.take key.length).map foldCase = key) :
    (secretKeys.find? fun key => decide ((cs.take key.length).map foldCase = key)) = some key := by
  have hunique : ∀ other ∈ secretKeys, (cs.take other.length).map foldCase = other →
      other = key := by
    intro other hother hsame
    have hall : (secretKeys.all fun a => secretKeys.all fun b =>
        !a.isPrefixOf b || decide (a = b)) = true := by decide
    have hfound {a b : List Char} (ha : a ∈ secretKeys) (hb : b ∈ secretKeys)
        (hab : a <+: b) : a = b := by
      have h := List.all_eq_true.mp (List.all_eq_true.mp hall a ha) b hb
      simpa [List.isPrefixOf_iff_prefix.mpr hab] using h
    have hpre {a : List Char} (ha : (cs.take a.length).map foldCase = a) :
        a <+: cs.map foldCase := by
      rw [List.map_take] at ha
      exact ha ▸ List.take_prefix a.length (cs.map foldCase)
    rcases List.prefix_or_prefix_of_prefix (hpre hsame) (hpre hcs) with h | h
    · exact hfound hother hkey h
    · exact (hfound hkey hother h).symm
  cases hfind : secretKeys.find? fun key => decide ((cs.take key.length).map foldCase = key) with
  | none =>
      have hnot := List.find?_eq_none.mp hfind key hkey
      exact absurd hcs (by simpa using hnot)
  | some other =>
      have hsome := List.find?_some hfind
      rw [hunique other (List.mem_of_find?_eq_some hfind) (by simpa using hsome)]

/-- **The pattern**: a setting's name, a sign and a secret. -/
theorem secretMatch_iff {k r : Nat} :
    secretMatch isAlnum before cs = some (k, r) ↔
      ∃ A g Y, cs = A ++ g :: Y ∧ (g = '=' ∨ g = ':') ∧ Named isAlnum before A ∧
        secretOf Y ≠ [] ∧ k = A.length + 1 ∧
        r = (Y.takeWhile isSpace).length + (secretOf Y).length := by
  constructor
  · intro h
    unfold secretMatch at h
    split at h
    · cases h
    · rename_i hbefore
      split at h
      · cases h
      · rename_i key hfind
        have hkey := List.mem_of_find?_eq_some hfind
        have hname : (cs.take key.length).map foldCase = key := by
          simpa using List.find?_some hfind
        have hlength : key.length ≤ cs.length := by
          have hlen := congrArg List.length hname
          rw [List.length_map, List.length_take] at hlen
          omega
        simp only at h
        split at h
        · cases h
        · rename_i sign rest hrest
          rw [drop_length_takeWhile] at h
          split_ifs at h with hsign
          obtain ⟨rfl, rfl⟩ := Prod.mk.inj (Option.some.inj h)
          rw [← List.drop_drop, drop_length_takeWhile] at hrest
          refine ⟨cs.take key.length ++ (cs.drop key.length).takeWhile isSpace, sign, rest,
            ?_, hsign.1, ⟨by simpa using hbefore, key, hkey, ?_, ?_⟩, hsign.2, ?_, rfl⟩
          · rw [List.append_assoc, ← hrest, List.takeWhile_append_dropWhile,
              List.take_append_drop]
          · rw [List.take_append_of_le_length (by rw [List.length_take]; omega),
              List.take_take, Nat.min_self, hname]
          · rw [List.drop_append_of_le_length (by rw [List.length_take]; omega),
              List.drop_take_self, List.nil_append]
            intro c hc
            exact List.mem_takeWhile_imp hc
          · rw [List.length_append, List.length_take, Nat.min_eq_left hlength]
  · rintro ⟨A, g, Y, rfl, hg, ⟨hbefore, key, hkey, hname, hblanks⟩, hsecret, rfl, rfl⟩
    have hlength : key.length ≤ A.length := by
      have hlen := congrArg List.length hname
      rw [List.length_map, List.length_take] at hlen
      omega
    have hnameAll : ((A ++ g :: Y).take key.length).map foldCase = key := by
      rw [List.take_append_of_le_length hlength, hname]
    have hgspace : isSpace g = false := by rcases hg with rfl | rfl <;> decide
    have hdrop : (A ++ g :: Y).drop key.length = A.drop key.length ++ g :: Y :=
      List.drop_append_of_le_length hlength
    have htake : ((A ++ g :: Y).drop key.length).takeWhile isSpace = A.drop key.length := by
      rw [hdrop, List.takeWhile_append_of_pos hblanks,
        List.takeWhile_cons_of_neg (by simp [hgspace]), List.append_nil]
    have hrest : (A ++ g :: Y).drop (key.length + (A.drop key.length).length) = g :: Y := by
      rw [List.length_drop, Nat.add_sub_cancel' hlength, List.drop_left]
    unfold secretMatch
    rw [if_neg (by simp [hbefore]), find_secretKey hkey hnameAll]
    simp only [htake, hrest, drop_length_takeWhile]
    rw [if_pos ⟨hg, hsecret⟩, List.length_drop, Nat.add_sub_cancel' hlength]
    rfl

/-- A sign is a character of a secret, and neither a blank nor in a name. -/
theorem sign_char {g : Char} (hg : g = '=' ∨ g = ':') :
    isSpace g = false ∧ isSecretChar g = true ∧ foldCase g = g := by
  rcases hg with rfl | rfl <;> decide

/-- There is no sign in what comes before the sign. -/
theorem Named.not_sign {A : List Char} (h : Named isAlnum before A) {c : Char} (hc : c ∈ A) :
    ¬ (c = '=' ∨ c = ':') := by
  intro hsign
  obtain ⟨-, key, hkey, hname, hblanks⟩ := h
  obtain ⟨hspace, -, hfold⟩ := sign_char hsign
  rw [← List.take_append_drop key.length A, List.mem_append] at hc
  rcases hc with hc | hc
  · have hmem : c ∈ key := by
      rw [← hname, ← hfold]
      exact List.mem_map_of_mem hc
    obtain ⟨-, heq, hcolon⟩ := (mem_secretKeys hkey).2 c hmem
    exact hsign.elim heq hcolon
  · rw [hblanks c hc] at hspace
    cases hspace

/-- Whether a secret follows, where a sign is further on, does not depend on what follows
that. -/
theorem secretOf_sign {g : Char} (hg : g = '=' ∨ g = ':') (B Y Z : List Char) :
    secretOf (B ++ g :: Y) ≠ [] ↔ secretOf (B ++ g :: Z) ≠ [] := by
  obtain ⟨hspace, hchar, -⟩ := sign_char hg
  induction B with
  | nil => simp [secretOf, hspace, hchar]
  | cons c B ih =>
      by_cases hc : isSpace c = true
      · simpa [secretOf, hc] using ih
      · by_cases hsecret : isSecretChar c = true <;> simp [secretOf, hc, hsecret]

/-- The secret is over where a character comes that no secret has. -/
theorem secretOf_mask {tail : List Char} (h : Stopped (fun c => !isSecretChar c) tail) :
    (['*', '*', '*'] ++ tail).takeWhile isSpace = [] ∧
      secretOf (['*', '*', '*'] ++ tail) = ['*', '*', '*'] := by
  have hspace : isSpace '*' = false := by decide
  have hstar : isSecretChar '*' = true := by decide
  have htail : tail.takeWhile isSecretChar = [] := by
    cases tail with
    | nil => rfl
    | cons c tail => exact List.takeWhile_cons_of_neg (by simpa using h c tail rfl)
  simp [secretOf, hspace, hstar, htail]

/-- **The pattern settles** on the mask. -/
theorem secretMatch_settles :
    Settles (secretMatch isAlnum) (fun c => !isSecretChar c) ['*', '*', '*'] where
  mask_ne := List.cons_ne_nil _ _
  stops := by
    intro before c cs hstop
    cases h : secretMatch isAlnum before (c :: cs) with
    | none => rfl
    | some m =>
        obtain ⟨A, g, Y, hcs, -, ⟨-, key, hkey, hname, -⟩, -⟩ := secretMatch_iff.mp h
        obtain ⟨hne, hchars⟩ := mem_secretKeys hkey
        obtain ⟨d, key, rfl⟩ := List.exists_cons_of_ne_nil hne
        cases A with
        | nil => cases hname
        | cons a A =>
            obtain ⟨rfl, -⟩ := List.cons.inj hcs
            have hfold : foldCase c = d := (List.cons.inj hname).1
            have hsecret := (hchars d List.mem_cons_self).1
            rw [← hfold, foldCase_of_not_secret (by simpa using hstop)] at hsecret
            simp [hsecret] at hstop
  bounds := by
    intro before cs k r h
    obtain ⟨A, g, Y, rfl, -, -, hsecret, rfl, rfl⟩ := secretMatch_iff.mp h
    have hpos := List.length_pos_iff.mpr hsecret
    have hgap := congrArg List.length (List.takeWhile_append_dropWhile (p := isSpace) (l := Y))
    have hrun : (secretOf Y).length ≤ (Y.dropWhile isSpace).length :=
      (List.takeWhile_prefix isSecretChar).length_le
    simp only [List.length_append, List.length_cons] at hgap ⊢
    omega
  ends := by
    intro before cs k r h
    obtain ⟨A, g, Y, rfl, -, -, -, rfl, rfl⟩ := secretMatch_iff.mp h
    have hdrop : (A ++ g :: Y).drop
        (A.length + 1 + ((Y.takeWhile isSpace).length + (secretOf Y).length)) =
          (Y.dropWhile isSpace).dropWhile isSecretChar := by
      rw [Nat.add_assoc, List.drop_length_add_append, Nat.add_comm 1, List.drop_succ_cons,
        ← List.drop_drop, drop_length_takeWhile, secretOf, drop_length_takeWhile]
    rw [hdrop]
    intro c rest hrest
    have hhead := List.head?_dropWhile_not isSecretChar (Y.dropWhile isSpace)
    rw [hrest] at hhead
    simpa using hhead
  again := by
    intro before cs k r tail h htail
    obtain ⟨A, g, Y, rfl, hg, hnamed, -, rfl, -⟩ := secretMatch_iff.mp h
    obtain ⟨hgap, hsecret⟩ := secretOf_mask htail
    have htake : (A ++ g :: Y).take (A.length + 1) = A ++ [g] := by
      rw [List.take_length_add_append]
      rfl
    refine secretMatch_iff.mpr ⟨A, g, ['*', '*', '*'] ++ tail, ?_, hg, hnamed, ?_, rfl, ?_⟩
    · rw [htake, List.append_assoc]
      rfl
    · rw [hsecret]
      exact List.cons_ne_nil _ _
    · rw [hgap, hsecret]
      rfl
  fresh := by
    intro before w cs k r hnone _ hmatch tail
    obtain ⟨A, g, Y, rfl, hg, -, hsecret, rfl, -⟩ := secretMatch_iff.mp hmatch
    have htake : (A ++ g :: Y).take (A.length + 1) = A ++ [g] := by
      rw [List.take_length_add_append]
      rfl
    rw [htake]
    cases h : secretMatch isAlnum before (w ++ ((A ++ [g]) ++ (['*', '*', '*'] ++ tail))) with
    | none => rfl
    | some m =>
        -- A name and a sign there: they are in the text too, before the same characters.
        exfalso
        obtain ⟨B, g', Z, hcs, hg', hnamed, hsecret', -⟩ := secretMatch_iff.mp h
        have hfound : ∀ Z', w ++ (A ++ g :: Y) = B ++ g' :: Z' → secretOf Z' ≠ [] → False := by
          intro Z' heq hZ'
          have hsome := secretMatch_iff.mpr ⟨B, g', Z', heq, hg', hnamed, hZ', rfl, rfl⟩
          rw [hnone] at hsome
          cases hsome
        have hsides : (w ++ A) ++ g :: (['*', '*', '*'] ++ tail) = B ++ g' :: Z := by
          rw [← hcs]
          simp
        rcases List.append_eq_append_iff.mp hsides with ⟨C, hB, hC⟩ | ⟨C, hwA, hC⟩
        · cases C with
          | nil =>
              obtain ⟨rfl, -⟩ := List.cons.inj hC
              refine hfound Y ?_ hsecret
              rw [hB, List.append_nil, List.append_assoc]
          | cons d C =>
              obtain ⟨rfl, -⟩ := List.cons.inj hC
              exact hnamed.not_sign (by rw [hB]; simp) hg
        · cases C with
          | nil =>
              obtain ⟨rfl, -⟩ := List.cons.inj hC
              refine hfound Y ?_ hsecret
              rw [← List.append_assoc, hwA, List.append_nil]
          | cons d C =>
              obtain ⟨rfl, rfl⟩ := List.cons.inj hC
              refine hfound (C ++ g :: Y) ?_ ((secretOf_sign hg C _ Y).mp hsecret')
              rw [← List.append_assoc, hwA, List.append_assoc]
              rfl

end

/-! ## §2. Filtering again. -/

section

variable {α : Type} {R : Renderer α} {isAlnum : Char → Bool}

/-- **Redaction is idempotent.** -/
theorem redactSecrets_twice (cs : List Char) :
    redactSecrets isAlnum (redactSecrets isAlnum cs) = redactSecrets isAlnum cs :=
  sub_sub secretMatch_settles cs

theorem redactValue_twice (v : Value α) :
    redactValue isAlnum (redactValue isAlnum v) = redactValue isAlnum v := by
  cases v with
  | str cs => exact congrArg Value.str (redactSecrets_twice cs)
  | other a => rfl

theorem Template.filter_twice (t : Template) :
    (t.filter isAlnum).filter isAlnum = t.filter isAlnum := by
  cases t with
  | text cs => exact congrArg Template.text (redactSecrets_twice cs)
  | object cs => rfl

theorem LogArgs.filter_twice (args : LogArgs α) :
    (args.filter isAlnum).filter isAlnum = args.filter isAlnum := by
  cases args with
  | tuple vs => simp [LogArgs.filter, redactValue_twice]
  | mapping self items =>
      cases items with
      | nil => rfl
      -- The keys of a mapping are a tuple after the first filter.
      | cons kv items => simp [LogArgs.filter, redactValue_twice]

/-- **A filtered record** is left as it is. -/
theorem LogRecord.filter_twice (record : LogRecord α) :
    (record.filter isAlnum).filter isAlnum = record.filter isAlnum := by
  rw [LogRecord.filter, LogRecord.filter, Template.filter_twice, LogArgs.filter_twice]

/-- A record is filtered once, or more often. -/
theorem LogRecord.filter_iterate {n : Nat} (h : 0 < n) (record : LogRecord α) :
    (LogRecord.filter isAlnum)^[n] record = record.filter isAlnum := by
  obtain ⟨n, rfl⟩ := Nat.exists_eq_succ_of_ne_zero h.ne'
  clear h
  rw [Function.iterate_succ_apply]
  induction n with
  | zero => rfl
  | succ n ih => rw [Function.iterate_succ_apply, LogRecord.filter_twice, ih]

/-! ## §3. The handlers of the root logger. -/

/-- All handlers that come after a filter write the filtered record. -/
theorem callHandlers_filtered (levelno : Nat) (handlers : List Handler) (record : LogRecord α) :
    ∀ written ∈ callHandlers R isAlnum levelno handlers (record.filter isAlnum),
      written = (record.filter isAlnum).getMessage R := by
  induction handlers with
  | nil =>
      intro written hw
      cases hw
  | cons handler handlers ih =>
      have hsame : (LogRecord.filter isAlnum)^[handler.filters] (record.filter isAlnum) =
          record.filter isAlnum := by
        cases hn : handler.filters with
        | zero => rfl
        | succ n => rw [LogRecord.filter_iterate n.succ_pos, LogRecord.filter_twice]
      intro written hw
      rw [callHandlers] at hw
      split at hw
      · rw [hsame] at hw
        exact (List.mem_cons.mp hw).elim id (ih written)
      · exact ih written hw

/-- **A root logger that redacts**: the first handler has a filter, and no record that the
logger passes on is under its level. -/
def Root.Redacts (root : Root) : Prop :=
  ∃ handler handlers, root.handlers = handler :: handlers ∧ 0 < handler.filters ∧
    handler.level ≤ root.level

/-- It redacts after each start, -/
theorem Root.lifespan_redacts (level : Nat) (root : Root) : (root.lifespan level).Redacts := by
  obtain ⟨before, handlers⟩ := root
  cases handlers with
  | nil => exact ⟨⟨0, 1⟩, [], rfl, Nat.one_pos, Nat.zero_le level⟩
  | cons handler handlers => exact ⟨_, _, rfl, Nat.succ_pos handler.filters, le_refl level⟩

/-- and goes on to: later handlers come after the first one. -/
theorem Root.Redacts.step {root : Root} (h : root.Redacts) (e : LogEvent α) :
    (root.step R isAlnum e).1.Redacts := by
  obtain ⟨handler, handlers, hhandlers, hfilters, hlevel⟩ := h
  cases e with
  | addHandler level =>
      refine ⟨handler, handlers ++ [⟨level, 0⟩], ?_, hfilters, hlevel⟩
      show root.handlers ++ [_] = _
      rw [hhandlers]
      rfl
  | start level => exact root.lifespan_redacts level
  | log levelno record => exact ⟨handler, handlers, hhandlers, hfilters, hlevel⟩

/-- What is written of a record by a logger that redacts. -/
theorem Root.Redacts.written {root : Root} (h : root.Redacts) {e : LogEvent α} {w : Written α}
    (hw : w ∈ (root.step R isAlnum e).2) :
    w.2 ≠ [] ∧ ∀ written ∈ w.2, written = (w.1.filter isAlnum).getMessage R := by
  obtain ⟨handler, handlers, hhandlers, hfilters, hlevel⟩ := h
  cases e with
  | addHandler level => cases hw
  | start level => cases hw
  | log levelno record =>
      rw [Root.step] at hw
      split at hw
      · rename_i hpassed
        obtain rfl := List.mem_singleton.mp hw
        show callHandlers R isAlnum levelno root.handlers record ≠ [] ∧
          ∀ written ∈ callHandlers R isAlnum levelno root.handlers record, _
        rw [hhandlers, callHandlers, if_pos (hlevel.trans hpassed),
          LogRecord.filter_iterate hfilters]
        refine ⟨List.cons_ne_nil _ _, fun written hwritten => ?_⟩
        exact (List.mem_cons.mp hwritten).elim id
          (callHandlers_filtered levelno handlers record written)
      · cases hw

/-- **A run of a logger that redacts.** -/
theorem Root.Redacts.run {root : Root} (h : root.Redacts) (es : List (LogEvent α)) :
    ∀ w ∈ (root.run R isAlnum es).2,
      w.2 ≠ [] ∧ ∀ written ∈ w.2, written = (w.1.filter isAlnum).getMessage R := by
  induction es generalizing root with
  | nil =>
      intro w hw
      cases hw
  | cons e es ih =>
      intro w hw
      rcases List.mem_append.mp hw with hw | hw
      · exact h.written hw
      · exact ih (h.step e) w hw

/-! ## §4. Every run. -/

end

namespace Scripted

end Scripted

end Gateway

end ObligationRuntime
