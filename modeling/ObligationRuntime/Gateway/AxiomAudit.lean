/-
  ObligationRuntime.Gateway.AxiomAudit — axiom_audit.py of the gateway: the audit
  of a workspace's axioms.

  The audit runs a command and looks at its return code.  What the command printed
  is parsed, line by line, into the dependencies of the declarations, and is not
  looked at: the result is clean whatever axioms are listed.

  Main results:
    * `parseAxiomStdout_eq` — a text is read by its solid lines,
    * `readLine_lineChars` — a line of the contract format is read back as what was
      printed,
    * `AxiomAuditorReal.run_cases` — the audit is clean exactly when the command
      returned zero.
-/
import ObligationRuntime.Lib.SolidPieces
import ObligationRuntime.Schemas.Evidence

namespace ObligationRuntime

open Py

namespace Gateway

/-! ## §1. Commands. -/

/-- What a `LeanRunner` answers: `(stdout, stderr, returncode, timing_ms)`. -/
structure RunnerResult where
  stdout : String
  stderr : String
  returncode : Int
  timingMs : Int
  deriving DecidableEq

/-- How a command ended.  A `LeanRunner` always answers; a subprocess may run out
of time or not start, and then the measured time is still known. -/
inductive CommandRun where
  | ran (result : RunnerResult)
  | timeout (seconds : String) (timingMs : Int)
  | osError (text : String) (timingMs : Int)
  deriving DecidableEq

/-- The command ran and returned zero. -/
def CommandRun.Succeeded : CommandRun → Prop
  | .ran r => r.returncode = 0
  | _ => False

/-! ## §2. The report. -/

/-- One stripped line of `_parse_axiom_stdout`; nothing without a colon. -/
def parseAxiomLine (line : String) : Option AxiomDependency :=
  (partitionChars ':' line.toList).map fun (declaration, rest) =>
    { declaration := strip (String.ofList declaration)
      axioms := ((split ',' (String.ofList rest)).map strip).filter (· ≠ "") }

/-- `_parse_axiom_stdout`. -/
def parseAxiomStdout (stdout : String) : List AxiomDependency :=
  ((splitLines (strip stdout)).map strip).filterMap parseAxiomLine

/-- A line of the contract format: `declaration: axiom1, axiom2`. -/
def contractLine (d : AxiomDependency) : String :=
  d.declaration ++ ": " ++ String.intercalate ", " d.axioms

/-- The characters of the line of a dependency. -/
def lineChars (d : AxiomDependency) : List Char :=
  d.declaration.toList ++ (':' :: ' ' :: [',', ' '].intercalate (d.axioms.map String.toList))

/-- A line of the format, character by character. -/
theorem contractLine_toList (d : AxiomDependency) : (contractLine d).toList = lineChars d := by
  simp [contractLine, lineChars, String.toList_intercalate]

/-! ## §3. What is read of a text. -/

/-- What is read of a line: the text before its first colon, stripped, and the pieces
between the commas behind it.  That the line was stripped first makes no difference. -/
theorem parseAxiomLine_stripChars {declaration : List Char} (h : ':' ∉ declaration)
    (rest : List Char) :
    parseAxiomLine (String.ofList (stripChars (declaration ++ ':' :: rest))) =
      some { declaration := String.ofList (stripChars declaration)
             axioms := (solidPieces (· == ',') rest).map String.ofList } := by
  have hcolon : isSpace ':' = false := by decide
  have hfront : ':' ∉ declaration.dropWhile isSpace :=
    fun hc => h ((List.dropWhile_sublist _).mem hc)
  have hstrip : stripChars (declaration.dropWhile isSpace) = stripChars declaration := by
    rw [stripChars, List.dropWhile_idempotent, stripChars]
  rw [stripChars_solid hcolon, parseAxiomLine, String.toList_ofList,
    partitionChars_append _ hfront, Option.map_some]
  simp only [solid_split, solidPieces_rdropWhile, strip, String.toList_ofList, hstrip]

/-- What is read of one line of a text. -/
def readLine (line : List Char) : Option AxiomDependency := parseAxiomLine (String.ofList line)

/-- **A text is read by its solid lines.** -/
theorem parseAxiomStdout_eq (stdout : String) :
    parseAxiomStdout stdout = (solidPieces isLineBreak stdout.toList).filterMap readLine := by
  have hempty : readLine [] = none := rfl
  rw [← solidPieces_stripChars, ← solid_splitLines, filterMap_solid hempty, parseAxiomStdout,
    splitLines, strip, String.toList_ofList]
  simp [List.filterMap_map, Function.comp_def, readLine, strip]

/-! ## §4. One line, read back. -/

/-- A dependency that can be read back: its names can stand on one line, the
declaration before a colon and the axioms between commas. -/
structure Legible (d : AxiomDependency) : Prop where
  declaration : Phrase isLineBreak d.declaration.toList
  noColon : ':' ∉ d.declaration.toList
  axioms : ∀ a ∈ d.axioms, Phrase isLineBreak a.toList ∧ ',' ∉ a.toList

/-- No line of the format breaks. -/
theorem lineChars_noBreak {d : AxiomDependency} (h : Legible d) :
    ∀ c ∈ lineChars d, isLineBreak c = false := by
  intro c hc
  simp only [lineChars, List.mem_append, List.mem_cons] at hc
  rcases hc with hc | rfl | rfl | hc
  · exact h.declaration.plain c hc
  · decide
  · decide
  · rcases mem_intercalate hc with hc | ⟨a, ha, hc⟩
    · rcases List.mem_pair.mp hc with rfl | rfl
      · decide
      · decide
    · obtain ⟨x, hx, rfl⟩ := List.mem_map.mp ha
      exact (h.axioms x hx).1.plain c hc

/-- The axioms of a line are the pieces between its commas. -/
theorem solidPieces_axioms {as : List String}
    (h : ∀ a ∈ as, Phrase isLineBreak a.toList ∧ ',' ∉ a.toList) :
    solidPieces (· == ',') (' ' :: [',', ' '].intercalate (as.map String.toList)) =
      as.map String.toList := by
  rw [solidPieces_cons_blank (by decide),
    solidPieces_intercalate_phrases (by decide) (by decide : Blank [' '])]
  intro x hx
  obtain ⟨a, ha, rfl⟩ := List.mem_map.mp hx
  obtain ⟨hphrase, hcomma⟩ := h a ha
  refine ⟨hphrase.ne_nil, hphrase.stripped, fun c hc => ?_⟩
  simpa using fun heq : c = ',' => hcomma (heq ▸ hc)

/-- **A line of the format is read back**, and is the only thing read of it. -/
theorem readLine_lineChars {d : AxiomDependency} (h : Legible d) :
    (solidPieces isLineBreak (lineChars d)).filterMap readLine = [d] := by
  have hparse : readLine (stripChars (lineChars d)) = some d := by
    rw [readLine, lineChars, parseAxiomLine_stripChars h.noColon, h.declaration.stripped,
      solidPieces_axioms h.axioms]
    simp [Function.comp_def]
  have hempty : readLine [] = none := rfl
  rw [solidPieces_plain (lineChars_noBreak h), filterMap_solid hempty]
  simp [hparse]

/-! ## §5. The auditors. -/

/-- `NON_REAL_AXIOM_AUDIT_REASON`. -/
def nonRealAxiomAuditReason : String := "axiom_audit_stub_unconfigured"

/-- `AxiomAuditor.run`, the test double. -/
def AxiomAuditor.run (now : Timestamp) : AxiomAuditResult where
  createdAt := now
  ok := true
  trustLevel := .clean
  blockedReasons := [nonRealAxiomAuditReason]

namespace AxiomAuditorReal

/-- An audit that failed. -/
def failed (now : Timestamp) (reason : String) : AxiomAuditResult where
  createdAt := now
  ok := false
  trustLevel := .blocked
  blockedReasons := [reason]

/-- `stderr or stdout or "Axiom audit failed"`. -/
def failure (r : RunnerResult) : String :=
  if r.stderr ≠ "" then r.stderr
  else if r.stdout ≠ "" then r.stdout
  else "Axiom audit failed"

/-- `AxiomAuditorReal.run`. -/
def run (now : Timestamp) : CommandRun → AxiomAuditResult
  | .ran r =>
      if r.returncode ≠ 0 then failed now (failure r)
      -- The dependencies are recorded, and decide nothing.
      else
        { createdAt := now, ok := true, trustLevel := .clean
          dependencies := parseAxiomStdout r.stdout }
  | .timeout seconds _ => failed now ("Axiom audit exceeded " ++ seconds ++ "s")
  | .osError text _ => failed now text

/-- **What the audit says**: clean and without reasons exactly when the command
succeeded, else blocked, with one reason. -/
theorem run_cases (now : Timestamp) (c : CommandRun) :
    (c.Succeeded ∧ (run now c).ok = true ∧ (run now c).trustLevel = .clean ∧
      (run now c).blockedReasons = []) ∨
    (¬ c.Succeeded ∧ ∃ reason, run now c = failed now reason) := by
  cases c with
  | ran r =>
      by_cases h : r.returncode = 0
      · exact .inl ⟨h, by simp [run, h]⟩
      · exact .inr ⟨h, failure r, by simp [run, h]⟩
  | timeout seconds timingMs => exact .inr ⟨id, _, rfl⟩
  | osError text timingMs => exact .inr ⟨id, _, rfl⟩

/-- The audit is fine exactly when the command succeeded. -/
theorem run_ok_iff {now : Timestamp} {c : CommandRun} : (run now c).ok = true ↔ c.Succeeded := by
  rcases run_cases now c with ⟨h, hok, -, -⟩ | ⟨h, reason, hf⟩
  · simp [h, hok]
  · simp [h, hf, failed]

end AxiomAuditorReal

end Gateway

end ObligationRuntime
