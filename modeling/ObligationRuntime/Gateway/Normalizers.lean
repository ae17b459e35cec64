/-
  ObligationRuntime.Gateway.Normalizers — what the gateway makes of the lists of a
  transport: normalizers.py, and `check_interactive` of interactive_api.py.

  A transport lists its diagnostics and goals as mappings; the normalizer reads each by
  its own keys and its own defaults, and the records take or refuse what it read.

  Main results:
    * `diagnostics_ok_iff` — a list is taken where each of its mappings is,
    * `checkInteractive_ok_iff` — a check has a result where both lists are taken.
-/
import ObligationRuntime.Schemas.Evidence

namespace ObligationRuntime

open Py

namespace InteractiveNormalizer

/-! ## §1. normalizers.py -/

/-- A field of the record, with the value it is given. -/
def read {α : Type} (c : Codec α) (field : String) (v : Json) : Except PyError α :=
  Codec.atField field (c.validate v)

/-- The diagnostic of a mapping. -/
def diagnostic (item : Dict) : Except PyError Diagnostic := do
  let severity ← read Severity.codec "severity" (Dict.getD item "severity" (.str "error"))
  let file ← read Codec.str "file" (Dict.getD item "file" (.str ""))
  let line ← read Codec.int "line" (Dict.getD item "line" (.int 1))
  let column ← read Codec.int "column" (Dict.getD item "column" (.int 1))
  let endLine ← read optInt "end_line" (Dict.getD item "endLine" .null)
  let endColumn ← read optInt "end_column" (Dict.getD item "endColumn" .null)
  let code ← read optStr "code" (Dict.getD item "code" .null)
  let message ← read Codec.str "message" (Dict.getD item "message" (.str ""))
  let source ← read Codec.str "source" (Dict.getD item "source" (.str "lean"))
  return { severity, file, line, column, endLine, endColumn, code, message, source }

/-- `diagnostics`. -/
def diagnostics (raw : List Dict) : Except PyError (List Diagnostic) :=
  raw.mapM diagnostic

/-- The goal of a mapping. -/
def goal (item : Dict) : Except PyError GoalSnapshot := do
  let kind ← read GoalKind.codec "kind" (Dict.getD item "kind" (.str "plainGoal"))
  let text ← read Codec.str "text" (Dict.getD item "text" (.str ""))
  let file ← read optStr "file" (Dict.getD item "file" .null)
  let line ← read optInt "line" (Dict.getD item "line" .null)
  let column ← read optInt "column" (Dict.getD item "column" .null)
  return { kind, text, file, line, column }

/-- `goals`. -/
def goals (raw : List Dict) : Except PyError (List GoalSnapshot) :=
  raw.mapM goal

/-- `result`. -/
def result (now : Timestamp) (ok : Bool) (rawDiagnostics rawGoals : List Dict)
    (timingMs : Int) : Except PyError InteractiveCheckResult := do
  let diagnostics ← diagnostics rawDiagnostics
  let goals ← goals rawGoals
  return { createdAt := now, ok, diagnostics, goals, timingMs }

/-- **A list is taken** where each of its mappings is, in order. -/
theorem diagnostics_ok_iff {raw : List Dict} {out : List Diagnostic} :
    diagnostics raw = .ok out ↔ List.Forall₂ (fun item d => diagnostic item = .ok d) raw out :=
  mapM_eq_ok_iff

/-- A mapping whose severity is no word is refused, at the severity. -/
theorem diagnostic_of_int {item : Dict} {n : Int}
    (h : Dict.getD item "severity" (.str "error") = .int n) :
    diagnostic item = .error (.validationError "severity" "literal_error") := by
  unfold diagnostic
  rw [h]
  rfl

end InteractiveNormalizer

/-! ## §2. interactive_api.py -/

namespace InteractiveAPI

open InteractiveNormalizer

/-- `check_interactive`, on what the transport's check came to. -/
def checkInteractive (now : Timestamp) (timingMs : Int)
    (check : Except PyError (List Dict × List Dict × Bool)) :
    Except PyError InteractiveCheckResult := do
  let (rawDiagnostics, rawGoals, ok) ← check
  result now ok rawDiagnostics rawGoals timingMs

/-- **A check has a result** where both lists are taken, and the result is made of them. -/
theorem checkInteractive_ok_iff {now : Timestamp} {timingMs : Int}
    {check : Except PyError (List Dict × List Dict × Bool)} {r : InteractiveCheckResult} :
    checkInteractive now timingMs check = .ok r ↔
      ∃ rawDiagnostics rawGoals ok ds gs, check = .ok (rawDiagnostics, rawGoals, ok) ∧
        diagnostics rawDiagnostics = .ok ds ∧ goals rawGoals = .ok gs ∧
        r = { createdAt := now, ok, diagnostics := ds, goals := gs, timingMs } := by
  constructor
  · intro h
    obtain ⟨⟨rawDiagnostics, rawGoals, ok⟩, hcheck, h⟩ := bind_eq_ok_iff.mp h
    obtain ⟨ds, hds, h⟩ := bind_eq_ok_iff.mp h
    obtain ⟨gs, hgs, h⟩ := bind_eq_ok_iff.mp h
    exact ⟨rawDiagnostics, rawGoals, ok, ds, gs, hcheck, hds, hgs, (Except.ok.inj h).symm⟩
  · rintro ⟨rawDiagnostics, rawGoals, ok, ds, gs, rfl, hds, hgs, rfl⟩
    show result now ok rawDiagnostics rawGoals timingMs = _
    unfold result
    rw [hds, hgs]
    rfl

end InteractiveAPI

end ObligationRuntime
