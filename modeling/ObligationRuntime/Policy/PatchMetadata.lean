/-
  ObligationRuntime.Policy.PatchMetadata — patch_metadata.py of
  `lean_langchain_policy`: what a patch changes, read off its keys and contents.

  Main results:
    * `mem_changedFiles` — the changed files are exactly the keys,
    * `protectedTouched_eq_nil` — nothing protected is touched exactly when no
      key is spelled like a protected path.
-/
import ObligationRuntime.Lib.Text
import ObligationRuntime.Schemas.Review
import Mathlib.Data.List.Dedup
import Mathlib.Data.List.Sort

namespace ObligationRuntime

open Py

namespace Patch

/-- `patch.get(path, "")`. -/
def content (p : Patch) (path : String) : String :=
  match p with
  | [] => ""
  | (k, v) :: rest => if k = path then v else content rest path

/-- The paths a patch writes. -/
def paths (p : Patch) : List String := p.map Prod.fst

end Patch

/-- `sorted(set(before) | set(after))`. -/
def changedFiles (before after : Patch) : List String :=
  ((before.paths ++ after.paths).dedup).insertionSort (· ≤ ·)

/-- Does the content of one path change around an import? -/
def importsChangedAt (before after : Patch) (path : String) : Bool :=
  let b := before.content path
  let a := after.content path
  decide (b ≠ a) && (contains "import " b || contains "import " a)

/-- `[p for p in changed_files if p in protected_paths]`. -/
def protectedTouched (files : List String) (protectedPaths : List Json) : List String :=
  files.filter fun p => decide (Json.str p ∈ protectedPaths)

/-- What `summarize_patch` returns. -/
structure PatchSummary where
  changedFiles : List String
  importsChanged : Bool
  protectedPathsTouched : List String
  diffHash : String
  deriving DecidableEq, Repr

/-- `summarize_patch`; `sha256` is the hexadecimal digest of a text. -/
def summarizePatch (sha256 : String → String) (before after : Patch)
    (protectedPaths : List Json) : PatchSummary :=
  let files := changedFiles before after
  { changedFiles := files
    importsChanged := files.any (importsChangedAt before after)
    protectedPathsTouched := protectedTouched files protectedPaths
    diffHash := sha256 (String.join (files.map after.content)) }

/-- The patch metadata `policy_review` hands to the engine. -/
def PatchSummary.metadata (s : PatchSummary) : Dict :=
  [("protected_paths_touched", strList.dump s.protectedPathsTouched),
    ("imports_changed", .bool s.importsChanged), ("changed_files", strList.dump s.changedFiles)]

/-! ## §1. Facts. -/

/-- Only files of one of the two patches change. -/
theorem mem_changedFiles {before after : Patch} {path : String} :
    path ∈ changedFiles before after ↔ path ∈ before.paths ∨ path ∈ after.paths := by
  simp [changedFiles]

/-- **The protected list is compared as text**: nothing is touched exactly when
no changed path IS an entry. -/
theorem protectedTouched_eq_nil {files : List String} {protectedPaths : List Json} :
    protectedTouched files protectedPaths = [] ↔ ∀ f ∈ files, Json.str f ∉ protectedPaths := by
  simp [protectedTouched]

end ObligationRuntime
