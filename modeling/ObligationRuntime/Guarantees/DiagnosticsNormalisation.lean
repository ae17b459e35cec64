/-
  ObligationRuntime.Guarantees.DiagnosticsNormalisation — whether the diagnostics of the
  language server reach the client.

  The server numbers its severities, and `run_check` lists the numbers; the normalizer
  takes words.  So a list with a diagnostic is refused, and the check with it, whatever
  the diagnostic says; what `run_check` itself makes of the list is right.  The ends of
  the diagnostics are listed under keys that the normalizer does not read.

  Main results:
    * `runCheck_published` — what `run_check` lists, and when it is fine,
    * `diagnostics_survive_iff` — which lists reach the client,
    * `diagnostics_survive_fails` — a warning does not.
-/
import ObligationRuntime.Gateway.LspClient
import ObligationRuntime.Gateway.Normalizers
import Mathlib.Data.List.Forall2

namespace ObligationRuntime

open Py InteractiveNormalizer InteractiveAPI

namespace Lsp

/-! ## §1. What the server publishes. -/

/-- A diagnostic of the protocol; positions count from zero. -/
structure LspDiagnostic where
  severity : Option Severity
  line : Nat
  character : Nat
  stop : Option (Nat × Nat)
  message : String
  deriving DecidableEq, Repr

/-- `DiagnosticSeverity`. -/
def severityNumber : Severity → Int
  | .error => 1
  | .warning => 2
  | .information => 3
  | .hint => 4

/-- The mapping has a position. -/
def HasPosition (d : Dict) (line character : Nat) : Prop :=
  Dict.get? d "line" = some (.int line) ∧ Dict.get? d "character" = some (.int character)

/-- The end of a range, where there is one. -/
def EncodesStop (v : Option Json) : Option (Nat × Nat) → Prop
  | none => v = none
  | some p => ∃ d, v = some (.obj d) ∧ HasPosition d p.1 p.2

/-- The value is that diagnostic; it may have other members. -/
def Encodes (v : Json) (x : LspDiagnostic) : Prop :=
  ∃ d range start, v = .obj d ∧ Dict.get? d "range" = some (.obj range) ∧
    Dict.get? range "start" = some (.obj start) ∧ HasPosition start x.line x.character ∧
    EncodesStop (Dict.get? range "end") x.stop ∧
    Dict.get? d "severity" = x.severity.map (fun s => .int (severityNumber s)) ∧
    Dict.get? d "message" = some (.str x.message)

/-- The message is a `publishDiagnostics` notification of a list. -/
def Publishes (msg : Json) (ds : List Json) : Prop :=
  ∃ d params, msg = .obj d ∧ Dict.get? d "method" = some (.str publishMethod) ∧
    Dict.get? d "params" = some (.obj params) ∧ Dict.get? params "diagnostics" = some (.arr ds)

/-! ## §2. The property. -/

/-- The diagnostic says what the server's said, with the positions of `run_check`. -/
structure SaysWhat (file : String) (x : LspDiagnostic) (d : Diagnostic) : Prop where
  severity : d.severity = x.severity.getD .error
  file : d.file = file
  line : d.line = x.line + 1
  column : d.column = x.character
  endLine : d.endLine = x.stop.map fun p => (p.1 : Int) + 1
  endColumn : d.endColumn = x.stop.map fun p => (p.2 : Int)
  message : d.message = x.message

/-- **The diagnostics survive**: the normalizer takes what `run_check` lists, one diagnostic
for each of the server's, the check has a result, and it is fine just where none of them is
an error. -/
def Survive (now : Timestamp) (timingMs : Int) (file : String) (reads : List Delivery)
    (xs : List LspDiagnostic) : Prop :=
  ∃ raw ok out, runCheck (.ok true) file reads = .ok (raw, [], ok) ∧
    diagnostics raw = .ok out ∧ List.Forall₂ (SaysWhat file) xs out ∧
    (∃ r, checkInteractive now timingMs (runCheck (.ok true) file reads) = .ok r ∧
      r.diagnostics = out ∧ r.ok = ok) ∧
    (ok = true ↔ ∀ d ∈ out, d.severity ≠ .error)

/-! ## §3. What `run_check` lists. -/

/-- An integer, or nothing. -/
def intOrNull : Option Int → Json
  | none => .null
  | some n => .int n

/-- What `run_check` lists of a diagnostic. -/
def listed (file : String) (x : LspDiagnostic) : Dict :=
  [("severity", .int (severityNumber (x.severity.getD .error))), ("file", .str file),
    ("line", .int (x.line + 1)), ("column", .int x.character),
    ("end_line", intOrNull (x.stop.map fun p => (p.1 : Int) + 1)),
    ("end_column", intOrNull (x.stop.map fun p => (p.2 : Int))), ("message", .str x.message),
    ("source", .str "lean")]

section

variable {file : String} {reads : List Delivery} {msg : Json} {ds : List Json}
  {xs : List LspDiagnostic}

theorem truthy_of_get? {d : Dict} {key : String} {v : Json} (h : Dict.get? d key = some v) :
    (Json.obj d).truthy = true := by
  cases d with
  | nil => cases h
  | cons m d => rfl

/-- A diagnostic of the server is listed. -/
theorem diagnosticOf_encodes {v : Json} {x : LspDiagnostic} (h : Encodes v x) :
    diagnosticOf file v = .ok (listed file x) := by
  obtain ⟨d, range, start, rfl, hrange, hstart, ⟨hline, hcharacter⟩, hstop, hseverity,
    hmessage⟩ := h
  have hnumber : Dict.getD d "severity" (.int 1) =
      .int (severityNumber (x.severity.getD .error)) := by
    unfold Dict.getD
    rw [hseverity]
    cases x.severity <;> rfl
  cases hend : x.stop with
  | none =>
      have hnone : Dict.get? range "end" = none := by simpa [EncodesStop, hend] using hstop
      simp [diagnosticOf, Dict.getD, hrange, hstart, hnone, hline, hcharacter, hmessage, plusOne,
        listed, hend, intOrNull]
      exact hnumber
  | some p =>
      obtain ⟨e, he, heline, hecharacter⟩ :
          ∃ e, Dict.get? range "end" = some (.obj e) ∧ HasPosition e p.1 p.2 := by
        simpa [EncodesStop, hend] using hstop
      have htruthy : e.isEmpty = false := by simpa using truthy_of_get? heline
      simp [diagnosticOf, Dict.getD, hrange, hstart, he, htruthy, hline, hcharacter, heline,
        hecharacter, hmessage, plusOne, listed, hend, intOrNull]
      exact hnumber

/-- A notification is one to the loop. -/
theorem kindOf_publishes (h : Publishes msg ds) : kindOf msg = .ok .diagnostics := by
  obtain ⟨d, params, rfl, hmethod, -⟩ := h
  simp [kindOf, Dict.getD, hmethod]

theorem published_encodes (h : Publishes msg ds) (hds : List.Forall₂ Encodes ds xs) :
    published file msg = .ok (xs.map (listed file)) := by
  obtain ⟨d, params, rfl, -, hparams, hlist⟩ := h
  have hmap : ds.mapM (diagnosticOf file) = .ok (xs.map (listed file)) := by
    rw [mapM_eq_ok_iff, List.forall₂_map_right_iff]
    exact hds.imp fun v x hvx => diagnosticOf_encodes hvx
  have hparams' : (Json.obj params).orElse (.obj []) = .obj params := by
    unfold Json.orElse
    rw [truthy_of_get? hlist]
    rfl
  simp [published, Dict.getD, hparams, hparams', hlist, Json.pyIter, hmap]

/-- The severities are errors where their numbers are one. -/
theorem noError_listed :
    noError (xs.map (listed file)) = true ↔ ∀ x ∈ xs, x.severity.getD .error ≠ .error := by
  have hone : ∀ s : Severity, (Json.int (severityNumber s)).pyEq (.int 1) = true ↔ s = .error := by
    intro s
    cases s <;> decide
  simp only [noError, Bool.not_eq_true', List.any_map, List.any_eq_false, Function.comp_apply]
  refine forall₂_congr fun x _ => ?_
  rw [not_iff_not]
  exact hone _

variable (file) in
/-- **What `run_check` lists**: the server's diagnostics, and it is fine where none of them
is an error. -/
theorem runCheck_published (hend : reads.find? (endsWait id) = some (.ok (some msg)))
    (hpub : Publishes msg ds) (hds : List.Forall₂ Encodes ds xs) :
    runCheck (.ok true) file reads =
      .ok (xs.map (listed file), [], noError (xs.map (listed file))) := by
  have hanswer : (waitDiagnostics id file reads).1 = .ok (xs.map (listed file)) := by
    rw [waitDiagnostics_answer, hend]
    simp [atEnd, kindOf_publishes hpub, published_encodes hpub hds]
  show ((waitDiagnostics id file reads).1 >>= fun ds => pure (ds, [], noError ds)) = _
  rw [hanswer]
  rfl

/-- What is listed is refused, for its severity. -/
theorem diagnostic_listed (x : LspDiagnostic) :
    diagnostic (listed file x) = .error (.validationError "severity" "literal_error") :=
  diagnostic_of_int rfl

/-- With a word for the severity it would be taken, without its end. -/
theorem diagnostic_listed_end (x : LspDiagnostic) (s : Severity) {d : Diagnostic}
    (h : diagnostic (Dict.set (listed file x) "severity" (.str s.text)) = .ok d) :
    d.severity = s ∧ d.endLine = none ∧ d.endColumn = none := by
  have htaken : diagnostic (Dict.set (listed file x) "severity" (.str s.text)) = .ok
      { severity := s, file, line := x.line + 1, column := x.character, message := x.message } := by
    cases s <;> rfl
  rw [htaken] at h
  cases h
  exact ⟨rfl, rfl, rfl⟩

end

/-! ## §4. Which lists survive. -/

/-- **The diagnostics survive** exactly when there are none. -/
theorem diagnostics_survive_iff (now : Timestamp) (timingMs : Int) (file : String)
    {reads : List Delivery} {msg : Json} {ds : List Json} {xs : List LspDiagnostic}
    (hend : reads.find? (endsWait id) = some (.ok (some msg))) (hpub : Publishes msg ds)
    (hds : List.Forall₂ Encodes ds xs) :
    Survive now timingMs file reads xs ↔ xs = [] := by
  have hrun := runCheck_published file hend hpub hds
  constructor
  · rintro ⟨raw, ok, out, hraw, hout, -⟩
    rw [hrun] at hraw
    cases hraw
    cases xs with
    | nil => rfl
    | cons x xs =>
        -- The first of them is refused.
        rw [List.map_cons, diagnostics_ok_iff] at hout
        cases hout with
        | cons hfirst _ =>
            rw [diagnostic_listed] at hfirst
            cases hfirst
  · rintro rfl
    have hcheck : checkInteractive now timingMs (runCheck (.ok true) file reads) =
        .ok { createdAt := now, ok := true, diagnostics := [], goals := [], timingMs } :=
      checkInteractive_ok_iff.mpr ⟨[], [], true, [], [], hrun, rfl, rfl, rfl⟩
    exact ⟨[], true, [], hrun, rfl, .nil, ⟨_, hcheck, rfl, rfl⟩, by simp⟩

namespace Scripted

/-- A notification of a list. -/
def notice (ds : List Json) : Json :=
  .obj [("jsonrpc", .str "2.0"), ("method", .str publishMethod),
    ("params", .obj [("uri", .str "file:///ws/Main.lean"), ("diagnostics", .arr ds)])]

/-- A warning, as the server sends it. -/
def warning : Json :=
  .obj [("range", .obj [("start", .obj [("line", .int 0), ("character", .int 4)]),
      ("end", .obj [("line", .int 0), ("character", .int 7)])]),
    ("severity", .int 2), ("message", .str "declaration uses 'sorry'")]

/-- The same, read. -/
def warningRead : LspDiagnostic := ⟨some .warning, 0, 4, some (0, 7), "declaration uses 'sorry'"⟩

theorem encodes_warning : Encodes warning warningRead :=
  ⟨_, _, _, rfl, rfl, rfl, ⟨rfl, rfl⟩, ⟨_, rfl, rfl, rfl⟩, rfl, rfl⟩

/-- A time. -/
def checkTime : Timestamp := ⟨"2026-05-01T00:00:00Z", by decide⟩

theorem publishes_notice (ds : List Json) : Publishes (notice ds) ds :=
  ⟨_, _, rfl, rfl, rfl, rfl⟩

/-- A clean file is checked, and a file with a warning is not. -/
theorem diagnostics_survive_scripted :
    Survive checkTime 5 "/ws/Main.lean" [.ok (some (notice []))] [] ∧
      ¬ Survive checkTime 5 "/ws/Main.lean" [.ok (some (notice [warning]))] [warningRead] := by
  constructor
  · exact (diagnostics_survive_iff checkTime 5 "/ws/Main.lean" (by rfl) (publishes_notice [])
      .nil).mpr rfl
  · intro h
    have hnone := (diagnostics_survive_iff checkTime 5 "/ws/Main.lean" (by rfl)
      (publishes_notice [warning]) (.cons encodes_warning .nil)).mp h
    cases hnone

end Scripted

/-- **A warning is not reported**: the check raises. -/
theorem diagnostics_survive_fails :
    Encodes Scripted.warning Scripted.warningRead ∧
      runCheck (.ok true) "/ws/Main.lean" [.ok (some (Scripted.notice [Scripted.warning]))] =
        .ok ([listed "/ws/Main.lean" Scripted.warningRead], [], true) ∧
      checkInteractive Scripted.checkTime 5 (runCheck (.ok true) "/ws/Main.lean"
          [.ok (some (Scripted.notice [Scripted.warning]))]) =
        .error (.validationError "severity" "literal_error") ∧
      ¬ Survive Scripted.checkTime 5 "/ws/Main.lean"
        [.ok (some (Scripted.notice [Scripted.warning]))] [Scripted.warningRead] := by
  refine ⟨Scripted.encodes_warning, by rfl, by rfl, ?_⟩
  rintro ⟨raw, ok, out, -, -, -, ⟨r, hr, -⟩, -⟩
  cases hr

end Lsp

end ObligationRuntime
