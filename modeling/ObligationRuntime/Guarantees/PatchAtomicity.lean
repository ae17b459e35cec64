/-
  ObligationRuntime.Guarantees.PatchAtomicity — what a refused patch leaves.

  `apply_patch` asks of each key whether it leaves the workspace just before it writes
  it, so a request that is refused for one key has written those before it.  A key with a
  NUL raises the same exception, and is refused alike.  The workspace is as before exactly
  where these writes find what they write.

  Main results:
    * `applyPatchRoute_refused` — a refused patch has made the writes before the key,
    * `patch_atomic_iff` — the refused patches that leave the workspace as it was,
    * `patch_atomic_fails` — one that does not, in a session of the gateway.
-/
import ObligationRuntime.Gateway.Publication
import ObligationRuntime.Lib.Transition

namespace ObligationRuntime

open Py Posix Flow FileTree Transition

namespace Gateway

/-! ## §1. The keys before the first that is refused. -/

/-- The keys before the first one that leaves the workspace or has a NUL. -/
def keysBefore (root : List Comp) (files : Patch) : Patch :=
  files.takeWhile fun kv => decide (InRoot root kv.1)

/-- The files that keys name, with what they are to hold. -/
def filesOf (root : List Comp) (files : Patch) : List (List Name × ByteArray) :=
  files.map fun kv => (resolve root kv.1, kv.2.toUTF8)

/-- The workspace holds what the keys give: each file as the last of them that names it
has it, in a directory that is there. -/
def AlreadyThere (fs : Files) (root : List Comp) (files : Patch) : Prop :=
  ∀ w ∈ filesOf root files,
    fs w.1 = (lastWritten (filesOf root files) w.1).map .file ∧
      ∀ q, root <+: q → q <+: w.1.dropLast → fs q ≠ none

section

variable {root : List Comp}

/-- The loop writes the keys before the first that is refused. -/
theorem writeFiles_calls (p : Patch) :
    (writeFiles root p).calls.map (fun w => (w.file, w.content.toUTF8)) =
      filesOf root (keysBefore root p) := by
  induction p with
  | nil => rfl
  | cons kv p ih =>
      obtain ⟨relPath, content⟩ := kv
      unfold writeFiles
      by_cases hin : InRoot root relPath
      · have hpath := resolveUnderRoot_of_inRoot hin
        have hkeys : keysBefore root ((relPath, content) :: p) =
            (relPath, content) :: keysBefore root p :=
          List.takeWhile_cons_of_pos (by simpa using hin)
        rw [hkeys, hpath]
        simp only [Eff.call_ok_bind, List.map_cons, ih]
        rfl
      · have hkeys : keysBefore root ((relPath, content) :: p) = [] :=
          List.takeWhile_cons_of_neg (by simpa using hin)
        obtain ⟨text, hpath⟩ := resolveUnderRoot_of_not_inRoot hin
        rw [hkeys, hpath]
        rfl

variable {σ : GatewayState} {sid : String} {files : Patch} {lease : Lease}

/-- **A refused patch** has made the writes before the key it is refused for. -/
theorem applyPatchRoute_refused (hlease : σ.sessions sid = some lease)
    (hrefused : (applyPatchRoute σ sid files).2 = .error (.apiError 400 "path_traversal")) :
    let ws := filesOf lease.workspacePath (keysBefore lease.workspacePath files)
    (putAll σ.fs ws).2 = true ∧ (applyPatchRoute σ sid files).1.fs = (putAll σ.fs ws).1 := by
  intro ws
  have hroute : applyPatchRoute σ sid files =
      ({ σ with fs := (applyPatchFiles lease.workspacePath sid files σ.fs).1 },
        (applyPatchFiles lease.workspacePath sid files σ.fs).2) := by
    simp only [applyPatchRoute, hlease]
  have hcalls : (applyPatch lease.workspacePath sid files).calls.map
      (fun w => (w.file, w.content.toUTF8)) = ws := by
    rw [applyPatch_calls, writeFiles_calls]
  rw [hroute] at hrefused ⊢
  simp only [applyPatchFiles, hcalls] at hrefused ⊢
  split at hrefused
  next hput => exact ⟨hput, trivial⟩
  · cases hrefused

end

/-! ## §2. When the workspace is as before. -/

/-- Writes leave the tree below a path as it was exactly where it holds what they write. -/
theorem sub_putAll_eq_iff {fs : Files} {root : List Comp} {files : Patch}
    (hput : (putAll fs (filesOf root files)).2 = true)
    (hin : ∀ w ∈ filesOf root files, root <+: w.1) :
    sub (putAll fs (filesOf root files)).1 root = sub fs root ↔ AlreadyThere fs root files := by
  constructor
  · intro h w hw
    obtain ⟨content, hcontent⟩ := lastWritten_isSome hw
    have hsame : ∀ q, root <+: q → (putAll fs (filesOf root files)).1 q = fs q := by
      rintro q ⟨r, rfl⟩
      exact congrFun h r
    refine ⟨?_, ?_⟩
    · rw [← hsame w.1 (hin w hw), putAll_written hput hcontent, hcontent]
      rfl
    · intro q hq hparent hnone
      -- A directory on the way to a file is there afterwards.
      have hafter := hsame q hq
      rw [hnone] at hafter
      cases hlast : lastWritten (filesOf root files) q with
      | some content =>
          rw [putAll_written hput hlast] at hafter
          cases hafter
      | none =>
          rw [putAll_unwritten hput hlast, if_pos ⟨hnone, w, hw, hparent⟩] at hafter
          cases hafter
  · intro h
    funext r
    show (putAll fs (filesOf root files)).1 (root ++ r) = fs (root ++ r)
    cases hlast : lastWritten (filesOf root files) (root ++ r) with
    | some content =>
        obtain ⟨w, hw, hfile⟩ := mem_of_lastWritten hlast
        have hthere := (h w hw).1
        rw [hfile, hlast] at hthere
        rw [putAll_written hput hlast, hthere]
        rfl
    | none =>
        rw [putAll_unwritten hput hlast, if_neg]
        rintro ⟨hnone, w, hw, hparent⟩
        exact (h w hw).2 _ (List.prefix_append root r) hparent hnone

/-- **When a refused patch leaves the workspace as it was**: exactly where the workspace
holds what the keys before the first that is refused give. -/
theorem patch_atomic_iff (σ : GatewayState) (sid : String) (files : Patch) {lease : Lease}
    (hlease : σ.sessions sid = some lease)
    (hrefused : (applyPatchRoute σ sid files).2 = .error (.apiError 400 "path_traversal")) :
    sub (applyPatchRoute σ sid files).1.fs lease.workspacePath = sub σ.fs lease.workspacePath ↔
      AlreadyThere σ.fs lease.workspacePath (keysBefore lease.workspacePath files) := by
  obtain ⟨hput, hfs⟩ := applyPatchRoute_refused hlease hrefused
  rw [hfs]
  refine sub_putAll_eq_iff hput fun w hw => ?_
  obtain ⟨kv, hkv, rfl⟩ := List.mem_map.mp hw
  have hin : InRoot lease.workspacePath kv.1 := by simpa using List.mem_takeWhile_imp hkv
  exact hin.2

namespace Scripted

/-- A session of a repository. -/
def opened : List GatewayAction :=
  [.openEnvironment time { repoId := "demo" } (fun _ => some (repo "x")) .whole,
    .createSession "b2" (uuid "2") .whole]

/-- Its gateway. -/
def openedState : GatewayState := run (GatewayAction.step store) (.fresh store) opened

/-- A patch with a key of the workspace, and then one that leaves it. -/
def escaping : Patch := [("Main.lean", "y"), ("../escaped/file.lean", "content")]

/-- Another, whose first key gives what is there. -/
def idle : Patch := [("Main.lean", "x"), ("../escaped/file.lean", "content")]

/-- What the session leases. -/
def openedLease : Lease := ⟨"sess_2", "b2", store.workPath "sess_2"⟩

theorem openedState_session : openedState.sessions "sess_2" = some openedLease := by
  decide +kernel

theorem idle_refused : (applyPatchRoute openedState "sess_2" idle).2 =
    .error (.apiError 400 "path_traversal") := by decide +kernel

theorem patch_atomic_scripted :
    sub (applyPatchRoute openedState "sess_2" idle).1.fs openedLease.workspacePath =
        sub openedState.fs openedLease.workspacePath ↔
      AlreadyThere openedState.fs openedLease.workspacePath
        (keysBefore openedLease.workspacePath idle) :=
  patch_atomic_iff openedState "sess_2" idle openedState_session idle_refused

end Scripted

/-- **A refused patch that has changed the workspace**: its first key is written. -/
theorem patch_atomic_fails :
    ∃ lease, Scripted.openedState.sessions "sess_2" = some lease ∧
      (applyPatchRoute Scripted.openedState "sess_2" Scripted.escaping).2 =
        .error (.apiError 400 "path_traversal") ∧
      sub (applyPatchRoute Scripted.openedState "sess_2" Scripted.escaping).1.fs
          lease.workspacePath ≠
        sub Scripted.openedState.fs lease.workspacePath := by
  refine ⟨_, Scripted.openedState_session, by decide +kernel, fun h => ?_⟩
  have hmain := congrFun h ["Main.lean".toList]
  revert hmain
  decide +kernel

end Gateway

end ObligationRuntime
