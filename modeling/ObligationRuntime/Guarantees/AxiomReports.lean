/-
  ObligationRuntime.Guarantees.AxiomReports — a printed axiom report and what the
  audit reads of it.

  A report is a list of lines `declaration: axiom1, axiom2`, with white space around
  every line and behind the last one.  White space may hold line breaks itself, so a
  report may have empty lines; a declaration without axioms leaves a blank behind its
  colon, which is stripped when its line is the last.

  Main results:
    * `axiom_report_round_trip` — every report is read back as the dependencies it was
      printed from, in their order,
    * `Report.audited` — and an audit whose command succeeded records them.
-/
import ObligationRuntime.Gateway.AxiomAudit

namespace ObligationRuntime

open Py

namespace Gateway

/-! ## §1. Reports. -/

/-- A name that the format can carry: not empty, on one line, without the separators
of the format and without white space at its ends. -/
structure ReportName (name : String) : Prop where
  ne_empty : name ≠ ""
  noColon : ':' ∉ name.toList
  noComma : ',' ∉ name.toList
  oneLine : ∀ c ∈ name.toList, isLineBreak c = false
  stripped : strip name = name

theorem reportName_iff {name : String} :
    ReportName name ↔ name ≠ "" ∧ ':' ∉ name.toList ∧ ',' ∉ name.toList ∧
      (name.toList.all fun c => !isLineBreak c) = true ∧ strip name = name := by
  rw [List.all_eq_true]
  simp only [Bool.not_eq_true']
  exact ⟨fun h => ⟨h.ne_empty, h.noColon, h.noComma, h.oneLine, h.stripped⟩,
    fun ⟨hne, hcolon, hcomma, hline, hstrip⟩ => ⟨hne, hcolon, hcomma, hline, hstrip⟩⟩

instance (name : String) : Decidable (ReportName name) := decidable_of_iff' _ reportName_iff

/-- A printed line, with the white space around it. -/
structure ReportLine where
  dependency : AxiomDependency
  before : String
  after : String
  declaration : ReportName dependency.declaration
  axioms : ∀ a ∈ dependency.axioms, ReportName a
  blankBefore : Blank before.toList
  blankAfter : Blank after.toList

/-- What is printed for the line. -/
def ReportLine.text (l : ReportLine) : String := l.before ++ contractLine l.dependency ++ l.after

/-- A whole report: its lines, joined by newlines, and what follows the last. -/
structure Report where
  lines : List ReportLine
  trailing : String
  blankTrailing : Blank trailing.toList

/-- The text of the report. -/
def Report.text (r : Report) : String :=
  String.intercalate "\n" (r.lines.map ReportLine.text) ++ r.trailing

/-- What the report was printed from. -/
def Report.dependencies (r : Report) : List AxiomDependency := r.lines.map ReportLine.dependency

/-! ## §2. What is read of it. -/

theorem ReportName.phrase {name : String} (h : ReportName name) :
    Phrase isLineBreak name.toList where
  ne_nil := by simpa using h.ne_empty
  stripped := by simpa [strip] using congrArg String.toList h.stripped
  plain := h.oneLine

theorem ReportLine.legible (l : ReportLine) : Legible l.dependency where
  declaration := l.declaration.phrase
  noColon := l.declaration.noColon
  axioms a ha := ⟨(l.axioms a ha).phrase, (l.axioms a ha).noComma⟩

/-- The white space around a line is not seen. -/
theorem ReportLine.read (l : ReportLine) :
    (solidPieces isLineBreak l.text.toList).filterMap readLine = [l.dependency] := by
  rw [ReportLine.text, String.toList_append, String.toList_append, contractLine_toList,
    solidPieces_append_blank l.blankAfter, solidPieces_blank_append l.blankBefore,
    readLine_lineChars l.legible]

/-- Line by line, and nothing is read of what follows the last. -/
theorem Report.read (r : Report) :
    (solidPieces isLineBreak r.text.toList).filterMap readLine = r.dependencies := by
  have hn : isLineBreak '\n' = true := by decide
  have hnone : Blank [] := by decide
  have hlines : r.text.toList =
      ['\n'].intercalate (r.lines.map fun l => l.text.toList) ++ r.trailing.toList := by
    simp [Report.text, String.toList_intercalate, Function.comp_def]
  rw [hlines, solidPieces_append_blank r.blankTrailing, solidPieces_intercalate hn hnone,
    Report.dependencies]
  induction r.lines with
  | nil => rfl
  | cons l ls ih =>
      rw [List.map_cons, List.flatMap_cons, List.filterMap_append, l.read, ih,
        List.singleton_append, List.map_cons]

/-- **Every report is read back**: the parser finds the printed dependencies, all of
them and in their order, whatever white space surrounds the lines. -/
theorem axiom_report_round_trip (r : Report) : parseAxiomStdout r.text = r.dependencies := by
  rw [parseAxiomStdout_eq, r.read]

/-- An audit whose command printed a report and returned zero records what the report
was printed from. -/
theorem Report.audited (r : Report) {now : Timestamp} {audit : RunnerResult}
    (hout : audit.stdout = r.text) (h0 : audit.returncode = 0) :
    (AxiomAuditorReal.run now (.ran audit)).dependencies = r.dependencies := by
  have hread : parseAxiomStdout r.text = r.dependencies := by rw [parseAxiomStdout_eq, r.read]
  simp [AxiomAuditorReal.run, h0, hout, hread]

namespace Scripted

/-- Two declarations, the last one without axioms, between blank lines. -/
theorem axiom_report_round_trip_scripted :
    parseAxiomStdout "\n  Foo.bar: propext, Quot.sound \t\n Baz.qux: \n\n" =
      [{ declaration := "Foo.bar", axioms := ["propext", "Quot.sound"] },
       { declaration := "Baz.qux", axioms := [] }] :=
  axiom_report_round_trip
    { lines :=
        [{ dependency := { declaration := "Foo.bar", axioms := ["propext", "Quot.sound"] }
           before := "\n  "
           after := " \t"
           declaration := by decide
           axioms := by decide
           blankBefore := by decide
           blankAfter := by decide },
         { dependency := { declaration := "Baz.qux", axioms := [] }
           before := " "
           after := ""
           declaration := by decide
           axioms := by decide
           blankBefore := by decide
           blankAfter := by decide }]
      trailing := "\n\n"
      blankTrailing := by decide }

end Scripted

end Gateway

end ObligationRuntime
