/-
  ObligationRuntime.Gateway.FirecrackerHelper — the helper script of the repository:
  obr_firecracker_run_example.py.

  The script is given the workspace, the seconds and the command as its arguments.  It runs
  the command in the workspace, prints one JSON object with what came of it, and exits with
  zero whatever that was.

  Main results:
    * `main_argv` — what the script makes of the arguments that the runner gives it,
    * `strip_printed` — the runner strips the line that is printed of its end only.
-/
import ObligationRuntime.Gateway.Firecracker
import ObligationRuntime.Gateway.Framing
import ObligationRuntime.Gateway.Runners

namespace ObligationRuntime

open Py

namespace Gateway

namespace FirecrackerHelper

/-! ## §1. The script. -/

/-- `subprocess.run` of a command in a directory, with a limit of time. -/
abbrev Exec := String → List String → PyFloat → ProcessRun

/-- The object that is printed. -/
def printed (stdout stderr : String) (returncode : Int) : Json :=
  .obj [("stdout", .str stdout), ("stderr", .str stderr), ("returncode", .int returncode)]

/-- The object for arguments that are too few. -/
def usage : Json := printed "" "Usage: script workspace_path timeout_seconds cmd..." (-1)

/-- The object for a command that was run. -/
def outcome (seconds : Int) : ProcessRun → Json
  | .exited stdout stderr returncode => printed stdout stderr returncode
  | .timeoutExpired => printed "" ("Command exceeded " ++ toString seconds ++ "s") (-1)
  | .osError text => printed "" text (-1)

/-- `main`, on the arguments after the script's name. -/
def main (exec : Exec) : List String → Json
  | workspacePath :: timeoutSeconds :: word :: words =>
      match Framing.pyInt timeoutSeconds.toList with
      | none => printed "" "Invalid timeout_seconds" (-1)
      -- There is a first word: `if not command` never holds.
      | some seconds => outcome seconds (exec workspacePath (word :: words) (.finite seconds))
  | _ => usage

/-- The bytes of a text in ASCII. -/
def asciiBytes (cs : List Char) : List UInt8 := cs.map fun c => c.toNat.toUInt8

/-- The line that is printed. -/
def line (F : JsonText.FloatText) (v : Json) : List Char :=
  JsonText.dump F JsonText.spaced v ++ ['\n']

/-- The process of the script, for all its arguments. -/
def process (F : JsonText.FloatText) (exec : Exec) (script args : List String) : ScriptRun :=
  .exited 0 (asciiBytes (line F (main exec (args.drop script.length)))) []

/-! ## §2. Its arguments, and its line. -/

/-- A number is read back from its text. -/
theorem pyInt_toString (n : Int) : Framing.pyInt (toString n).toList = some n := by
  cases n with
  | ofNat n =>
      have htext : (toString (Int.ofNat n)).toList = Nat.toDigits 10 n := by
        simp [toString, Int.repr, Nat.repr]
      rw [htext, Framing.pyInt_toDigits]
      rfl
  | negSucc n =>
      have htext : (toString (Int.negSucc n)).toList = '-' :: Nat.toDigits 10 (n + 1) := by
        simp [toString, Int.repr, Nat.repr]
      have hword : Word ('-' :: Nat.toDigits 10 (n + 1)) := by
        refine ⟨List.cons_ne_nil _ _, fun c hc => ?_⟩
        rcases List.mem_cons.mp hc with rfl | hc
        · decide
        · exact (Framing.word_toDigits (n + 1)).solid c hc
      rw [htext, Framing.pyInt, Framing.dropIntSpace_word hword]
      simp only [Framing.pyNat_toDigits]
      rfl

/-- **The script, on the arguments of the runner**: it runs the command of the call. -/
theorem main_argv (exec : Exec) (inv : Invocation) (hcommand : inv.command ≠ []) (seconds : Int) :
    main exec ((FirecrackerRunner.argv inv seconds).drop inv.script.length) =
      outcome seconds (exec inv.workspace inv.command (.finite seconds)) := by
  obtain ⟨word, words, hwords⟩ := List.exists_cons_of_ne_nil hcommand
  have hdrop : (FirecrackerRunner.argv inv seconds).drop inv.script.length =
      inv.workspace :: toString seconds :: word :: words := by
    simp [FirecrackerRunner.argv, hwords]
  rw [hdrop, main, pyInt_toString, hwords]

/-- The members of an object end with its brace. -/
theorem dumpMembers_brace (F : JsonText.FloatText) (d : List (String × Json)) :
    ∃ mid, JsonText.dumpMembers F JsonText.spaced d = mid ++ ['\x7d'] := by
  induction d with
  | nil => exact ⟨[], rfl⟩
  | cons m d ih =>
      obtain ⟨k, v⟩ := m
      cases d with
      | nil =>
          refine ⟨JsonText.dumpStr k ++ ':' :: (JsonText.spaces 1 ++
            JsonText.dump F JsonText.spaced v), ?_⟩
          simp [JsonText.dumpMembers, JsonText.spaced]
      | cons m' d =>
          obtain ⟨mid, hmid⟩ := ih
          refine ⟨JsonText.dumpStr k ++ ':' :: (JsonText.spaces 1 ++
            (JsonText.dump F JsonText.spaced v ++ ',' :: (JsonText.spaces 1 ++ mid))), ?_⟩
          rw [JsonText.dumpMembers, hmid]
          simp [JsonText.spaced]

/-- **What is printed** has no white space at its ends but the end of the line. -/
theorem strip_printed (F : JsonText.FloatText) (stdout stderr : String) (returncode : Int) :
    stripChars (line F (printed stdout stderr returncode)) =
      JsonText.dump F JsonText.spaced (printed stdout stderr returncode) := by
  obtain ⟨mid, hmid⟩ := dumpMembers_brace F
    [("stdout", .str stdout), ("stderr", .str stderr), ("returncode", .int returncode)]
  have hdump : JsonText.dump F JsonText.spaced (printed stdout stderr returncode) =
      ['\x7b'] ++ mid ++ ['\x7d'] := by
    rw [printed, JsonText.dump, hmid]
    rfl
  have hopen : Word ['\x7b'] := ⟨by simp, by simp; decide⟩
  have hclose : Word ['\x7d'] := ⟨by simp, by simp; decide⟩
  rw [line, stripChars_concat_blank (by decide), hdump, stripChars_words hopen hclose]

end FirecrackerHelper

end Gateway

end ObligationRuntime
