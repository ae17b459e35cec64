/-
  ObligationRuntime.Sdk.Client — `batch_verify` and `get_review_payload` of the SDK
  client, client.py of `lean_langchain_sdk`.

  Before it validates an answer the client fills in what stubs and older gateways
  leave out of the three sub-results.  An answer of this gateway leaves nothing
  out.  The path of a review is its template with the thread id put in as it is.

  Main result: `batchVerify_dump` — the client returns the gateway's result.
-/
import ObligationRuntime.Schemas.Review

namespace ObligationRuntime

open Py

namespace Sdk

/-- The keys a command result is given, `ok` with the value of the caller. -/
def fillCommand (ok : Bool) (d : Dict) : Dict :=
  ((((d.setDefault "ok" (.bool ok)).setDefault "command" (.arr [])).setDefault "stdout"
    (.str "")).setDefault "stderr" (.str "")).setDefault "timing_ms" (.int 0)

/-- The keys an audit is given. -/
def fillAudit (d : Dict) : Dict :=
  (d.setDefault "ok" (.bool true)).setDefault "trust_level" (.str "clean")

/-- Rewrite the mapping under a key, when there is one. -/
def updateDict (d : Dict) (key : String) (f : Dict → Dict) : Dict :=
  match d.getD key .null with
  | .obj e => d.set key (.obj (f e))
  | _ => d

/-- `_normalize_batch_verify_dict`. -/
def normalizeBatchVerifyDict (raw : Dict) : Dict :=
  let d := updateDict raw "axiom_audit" fillAudit
  let d := updateDict d "build" (fillCommand (d.getD "ok" (.bool true)).truthy)
  updateDict d "fresh_checker" (fillCommand true)

/-- `batch_verify`, from the body of the answer. -/
def batchVerify (now : Timestamp) (body : Json) : Except PyError BatchVerifyResult :=
  match body with
  | .obj raw => BatchVerifyResult.validate now (.obj (normalizeBatchVerifyDict raw))
  | body => BatchVerifyResult.validate now body

/-- Filling in what is there changes nothing. -/
theorem updateDict_eq_self {d e : Dict} {key : String} {f : Dict → Dict}
    (h : d.get? key = some (.obj e)) (hf : f e = e) : updateDict d key f = d := by
  simp [updateDict, Dict.getD, h, hf, Dict.set_eq_self h]

/-- Nothing is filled in where nothing is missing: an audit, -/
theorem fillAudit_dump (r : AxiomAuditResult) : fillAudit r.dump = r.dump := by
  have hok : r.dump.get? "ok" = some (.bool r.ok) := rfl
  have htrust : r.dump.get? "trust_level" = some (.str r.trustLevel.text) := rfl
  simp only [fillAudit, Dict.setDefault_eq_self hok, Dict.setDefault_eq_self htrust]

/-- the result of a command, -/
theorem fillCommand_dump (ok : Bool) (r : CommandResult) : fillCommand ok r.dump = r.dump := by
  have hok : r.dump.get? "ok" = some (.bool r.ok) := rfl
  have hcommand : r.dump.get? "command" = some (strList.dump r.command) := rfl
  have hout : r.dump.get? "stdout" = some (.str r.stdout) := rfl
  have herr : r.dump.get? "stderr" = some (.str r.stderr) := rfl
  have htiming : r.dump.get? "timing_ms" = some (.int r.timingMs) := rfl
  simp only [fillCommand, Dict.setDefault_eq_self hok, Dict.setDefault_eq_self hcommand,
    Dict.setDefault_eq_self hout, Dict.setDefault_eq_self herr, Dict.setDefault_eq_self htiming]

/-- and a whole batch result. -/
theorem normalizeBatchVerifyDict_dump (r : BatchVerifyResult) :
    normalizeBatchVerifyDict r.dump = r.dump := by
  have haudit : r.dump.get? "axiom_audit" = some (.obj r.axiomAudit.dump) := rfl
  have hbuild : r.dump.get? "build" = some (.obj r.build.dump) := rfl
  have hfresh : r.dump.get? "fresh_checker" = some (.obj r.freshChecker.dump) := rfl
  simp only [normalizeBatchVerifyDict, updateDict_eq_self haudit (fillAudit_dump _),
    updateDict_eq_self hbuild (fillCommand_dump _ _),
    updateDict_eq_self hfresh (fillCommand_dump _ _)]

/-- **The client returns the gateway's result.** -/
theorem batchVerify_dump (now : Timestamp) (r : BatchVerifyResult) :
    batchVerify now (.obj r.dump) = .ok r := by
  simp only [batchVerify, normalizeBatchVerifyDict_dump, BatchVerifyResult.validate_dump]

/-! ## Reviews. -/

/-- `path_review(thread_id, PATH_REVIEW_BY_THREAD)`: the id is not quoted. -/
def pathReview (threadId : String) : String := "/v1" ++ ("/reviews/" ++ threadId)

/-- `_get`: a request for a path that the HTTP stack delivers as `http` says. -/
def get (http : String → Option String) (serve : String → Except PyError Json) (path : String) :
    Except PyError Json :=
  match http path with
  | none => .error (.osError "request failed")
  | some arrived => serve arrived

/-- `get_review_payload`. -/
def getReviewPayload (now : Timestamp) (http : String → Option String)
    (serve : String → Except PyError Json) (threadId : String) : Except PyError ReviewPayload := do
  let body ← get http serve (pathReview threadId)
  ReviewPayload.validate now body

end Sdk

end ObligationRuntime
