/-
  ObligationRuntime.Guarantees.HelperScript — a command run through the helper script.

  The command goes to the script as words, and what came of it comes back as the text of one
  JSON object, in ASCII.  Nothing is lost on either way: the runner answers what the local
  runner answers for the same command, but for the words it has for a command that took too
  long.  So the script keeps the runner's contract.

  Main results:
    * `report_printed` — what the runner reads of the line that the script prints,
    * `helper_script_agrees` — the runner with this script, and the local runner.
-/
import ObligationRuntime.Gateway.FirecrackerHelper
import ObligationRuntime.Guarantees.RunnerContract

namespace ObligationRuntime

open Py

namespace Gateway

open FirecrackerHelper FirecrackerRunner

/-! ## §1. The platform. -/

/-- A platform reads what the script prints: ASCII text is decoded as it is, and `json.loads`
gives back the members of the object that `json.dumps` has written. -/
structure ReadsHelper (P : Platform) (F : JsonText.FloatText) : Prop where
  decode : ∀ cs, (cs.all fun c => JsonText.printable c || c = '\n') = true →
    P.decode (asciiBytes cs) = some (String.ofList cs)
  loads : ∀ stdout stderr returncode,
    P.loads (JsonText.dumps F JsonText.spaced (printed stdout stderr returncode)) =
      .ok (.obj [(PyStr.ofString "stdout", .text stdout), (PyStr.ofString "stderr", .text stderr),
        (PyStr.ofString "returncode", .int returncode)])

section

variable {P : Platform} {F : JsonText.FloatText} {inv : Invocation} {exec : Exec}

/-- **The object that the script prints**, as the runner answers it. -/
theorem report_printed (hP : ReadsHelper P F) (stdout stderr : String) (returncode ms : Int) :
    report P (JsonText.dumps F JsonText.spaced (printed stdout stderr returncode)) ms =
      .ok (RunnerResult.raw ⟨stdout, stderr, returncode, ms⟩) := by
  have hout : PyStr.ofString "stdout" ≠ PyStr.ofString "stderr" := by decide
  have hcode : PyStr.ofString "stdout" ≠ PyStr.ofString "returncode" := by decide
  have hcode' : PyStr.ofString "stderr" ≠ PyStr.ofString "returncode" := by decide
  refine report_of_answer (hP.loads stdout stderr returncode) ?_
  simp [answer, Loaded.get, hout, hcode, hcode', Loaded.toInt, RunnerResult.raw]

/-- The object says what the code is. -/
theorem reportsZero_printed (hP : ReadsHelper P F) (stdout stderr : String) {returncode : Int}
    (h : returncode = 0) :
    ReportsZero P (JsonText.dumps F JsonText.spaced (printed stdout stderr returncode)) := by
  have hcode : PyStr.ofString "stdout" ≠ PyStr.ofString "returncode" := by decide
  have hcode' : PyStr.ofString "stderr" ≠ PyStr.ofString "returncode" := by decide
  refine ⟨_, hP.loads stdout stderr returncode, ?_⟩
  simp [Loaded.get, hcode, hcode', Loaded.isZero, h]

/-- What the script prints is decoded. -/
theorem decode_line (hP : ReadsHelper P F) (v : Json) :
    P.decode (asciiBytes (line F v)) = some (String.ofList (line F v)) := by
  refine hP.decode _ ?_
  rw [line, List.all_append, Bool.and_eq_true]
  refine ⟨List.all_eq_true.mpr fun c hc => ?_, by decide⟩
  rw [List.all_eq_true.mp (JsonText.printable_dump v) c hc]
  rfl

theorem strip_line (stdout stderr : String) (returncode : Int) :
    strip (String.ofList (line F (printed stdout stderr returncode))) =
      JsonText.dumps F JsonText.spaced (printed stdout stderr returncode) := by
  rw [strip, String.toList_ofList, strip_printed]
  rfl

/-- What the script says of a process. -/
def said (seconds elapsedMs : Int) : ProcessRun → RunnerResult
  | .exited stdout stderr returncode => ⟨stdout, stderr, returncode, elapsedMs⟩
  | .timeoutExpired => ⟨"", "Command exceeded " ++ toString seconds ++ "s", -1, elapsedMs⟩
  | .osError text => ⟨"", text, -1, elapsedMs⟩

theorem outcome_said (seconds elapsedMs : Int) (run : ProcessRun) :
    outcome seconds run = printed (said seconds elapsedMs run).stdout
      (said seconds elapsedMs run).stderr (said seconds elapsedMs run).returncode := by
  cases run <;> rfl

/-- **The runner with the script**: its answer is what the script says of the command, and
the code is zero only where the script says so. -/
theorem run_helper (hP : ReadsHelper P F) (hscript : inv.subprocessRun = process F exec inv.script)
    (hcommand : inv.command ≠ []) {seconds : Int} (hs : inv.timeout.toInt = .ok seconds) :
    let answer := said seconds inv.elapsedMs
      (exec inv.workspace inv.command (.finite seconds))
    run P inv = .ok answer.raw ∧ (answer.returncode = 0 → Succeeds P inv) := by
  intro answer
  have hprocess : inv.subprocessRun (argv inv seconds) =
      .exited 0 (asciiBytes (line F (printed answer.stdout answer.stderr answer.returncode)))
        [] := by
    rw [hscript, process, main_argv exec inv hcommand, outcome_said seconds inv.elapsedMs]
  have hout := decode_line (F := F) hP (printed answer.stdout answer.stderr answer.returncode)
  have herr : P.decode [] = some "" := hP.decode [] rfl
  constructor
  · have hms : answer.timingMs = inv.elapsedMs := by
      show (said seconds inv.elapsedMs (exec inv.workspace inv.command _)).timingMs = _
      cases exec inv.workspace inv.command (.finite seconds) <;> rfl
    rw [run_exited hs hprocess hout herr, completed_zero, strip_line, report_printed hP, ← hms]
  · intro hzero
    rw [succeeds_of_exited hs hprocess hout, strip_line]
    exact ⟨rfl, reportsZero_printed hP _ _ hzero⟩

end

/-! ## §2. The two runners. -/

/-- What the script says of a command, and what the local runner answers. -/
theorem said_direct (seconds elapsedMs : Int) (timeout : Timeout) (ended : ProcessRun) :
    (said seconds elapsedMs ended).stdout = (LocalRunner.run timeout elapsedMs ended).stdout ∧
      (said seconds elapsedMs ended).returncode =
        (LocalRunner.run timeout elapsedMs ended).returncode ∧
      (ended ≠ .timeoutExpired →
        said seconds elapsedMs ended = LocalRunner.run timeout elapsedMs ended) := by
  cases ended with
  | exited stdout stderr returncode => exact ⟨rfl, rfl, fun _ => rfl⟩
  | timeoutExpired => exact ⟨rfl, rfl, fun h => absurd rfl h⟩
  | osError text => exact ⟨rfl, rfl, fun _ => rfl⟩

/-- The stages are ok by the code alone. -/
theorem stages_ok (now : Timestamp) (command : List String) {r r' : RunnerResult}
    (h : r.returncode = r'.returncode) :
    (BuildRunner.run now r).ok = (BuildRunner.run now r').ok ∧
      (AxiomAuditorReal.run now (.ran r)).ok = (AxiomAuditorReal.run now (.ran r')).ok ∧
      (FreshCheckerReal.run now command (.ran r)).ok =
        (FreshCheckerReal.run now command (.ran r')).ok := by
  refine ⟨?_, Bool.eq_iff_iff.mpr ?_, Bool.eq_iff_iff.mpr ?_⟩
  · show decide (r.returncode = 0) = decide (r'.returncode = 0)
    rw [h]
  · rw [AxiomAuditorReal.run_ok_iff, AxiomAuditorReal.run_ok_iff]
    show r.returncode = 0 ↔ r'.returncode = 0
    rw [h]
  · rw [FreshCheckerReal.run_ok_iff, FreshCheckerReal.run_ok_iff]
    show r.returncode = 0 ↔ r'.returncode = 0
    rw [h]

/-- **The helper script and the local runner**, for any command, whatever comes of it in the
whole seconds of the limit: the runner keeps its contract, and answers what the local runner
answers, to the last character; only of a command that took too long it says so in other
words, and counts the time that has passed.  The build, the audit and the fresh check pass
exactly where they do on the local runner. -/
theorem helper_script_agrees {P : Platform} {F : JsonText.FloatText} (hP : ReadsHelper P F)
    (exec : Exec) (inv : Invocation) (hscript : inv.subprocessRun = process F exec inv.script)
    (hcommand : inv.command ≠ []) {seconds : Int} (hs : inv.timeout.toInt = .ok seconds)
    (timeout : Timeout) (now : Timestamp) :
    let ended := exec inv.workspace inv.command (.finite seconds)
    let direct := LocalRunner.run timeout inv.elapsedMs ended
    Contract P inv now ∧
      (∃ answer : RunnerResult, run P inv = .ok answer.raw ∧
        answer.stdout = direct.stdout ∧ answer.returncode = direct.returncode ∧
        (ended ≠ .timeoutExpired → answer = direct)) ∧
      (∃ b, run P inv >>= BuildRunner.runOn now = .ok b ∧
        b.ok = (BuildRunner.run now direct).ok) ∧
      (∃ a, run P inv >>= AxiomAuditorReal.runOn now = .ok a ∧
        a.ok = (AxiomAuditorReal.run now (.ran direct)).ok) ∧
      ∃ f, run P inv >>= FreshCheckerReal.runOn now inv.command = .ok f ∧
        f.ok = (FreshCheckerReal.run now inv.command (.ran direct)).ok := by
  intro ended direct
  obtain ⟨hrun, hzero⟩ := run_helper hP hscript hcommand hs
  obtain ⟨hout, hcode, hsame⟩ := said_direct seconds inv.elapsedMs timeout ended
  obtain ⟨hbuild, haudit, hfresh⟩ := stages_ok now inv.command hcode
  refine ⟨contract_iff_raw.mpr ⟨_, hrun, hzero⟩, ⟨_, hrun, hout, hcode, hsame⟩,
    ⟨_, ?_, hbuild⟩, ⟨_, ?_, haudit⟩, ⟨_, ?_, hfresh⟩⟩
  · rw [hrun, ok_bind, BuildRunner.runOn_raw]
  · rw [hrun, ok_bind, AxiomAuditorReal.runOn_raw]
  · rw [hrun, ok_bind, FreshCheckerReal.runOn_raw]

namespace Scripted

/-- A character in ASCII is given back by its byte. -/
theorem ofNat_asciiByte {c : Char} (h : c.toNat < 256) :
    Char.ofNat (c.toNat.toUInt8).toNat = c := by
  have hbyte : (c.toNat.toUInt8).toNat = c.toNat := by
    simp only [Nat.toUInt8_eq, UInt8.toNat_ofNat']
    exact Nat.mod_eq_of_lt h
  rw [hbyte, Char.ofNat_toNat]

/-- What is loaded of what the script prints. -/
theorem asciiPlatform_reads : ReadsHelper asciiPlatform JsonText.noFloats where
  decode cs hcs := by
    have hback : (asciiBytes cs).map (fun b => Char.ofNat b.toNat) = cs := by
      rw [asciiBytes, List.map_map]
      conv => rhs; rw [← List.map_id cs]
      refine List.map_congr_left fun c hc => ofNat_asciiByte ?_
      have hprinted := List.all_eq_true.mp hcs c hc
      rcases Bool.or_eq_true _ _ ▸ hprinted with h | h
      · simp only [JsonText.printable, Bool.and_eq_true, decide_eq_true_eq] at h
        omega
      · rw [of_decide_eq_true h]
        decide
    show some (String.ofList ((asciiBytes cs).map fun b => Char.ofNat b.toNat)) = _
    rw [hback]
  loads stdout stderr returncode := by
    have hnames : ["stdout", "stderr", "returncode"].Nodup := by decide
    have hkeys : (printed stdout stderr returncode).UniqueKeys :=
      Json.uniqueKeys_obj.mpr ⟨hnames, rfl⟩
    have hint : (printed stdout stderr returncode).all Json.integral = true := rfl
    have hloads : JsonText.loads JsonText.noFloats
        (JsonText.dumps JsonText.noFloats JsonText.spaced (printed stdout stderr returncode)) =
          .ok (printed stdout stderr returncode) := JsonText.loads_dumps hkeys hint
    simp only [asciiPlatform, hloads]
    rfl

/-- A command that complains and fails. -/
def complaining : Exec := fun _ _ _ => .exited "λ" "unknown identifier «ℕ»\n" 1

/-- The script with that command. -/
def complaint : Invocation where
  script := ["python3", "helper.py"]
  workspace := "/workspace"
  command := ["lake", "build"]
  timeout := .finite 10
  subprocessRun := process JsonText.noFloats complaining ["python3", "helper.py"]
  elapsedMs := 5

theorem helper_script_agrees_scripted :
    Contract asciiPlatform complaint stamp ∧
      ∃ answer : RunnerResult, run asciiPlatform complaint = .ok answer.raw ∧
        answer = ⟨"λ", "unknown identifier «ℕ»\n", 1, 5⟩ := by
  have h := helper_script_agrees asciiPlatform_reads complaining complaint rfl
    (List.cons_ne_nil _ _) (show complaint.timeout.toInt = .ok 10 from rfl)
    ⟨"10.0", 10000⟩ stamp
  obtain ⟨answer, hrun, -, -, hsame⟩ := h.2.1
  exact ⟨h.1, answer, hrun, hsame (by simp [complaining])⟩

end Scripted

end Gateway

end ObligationRuntime
