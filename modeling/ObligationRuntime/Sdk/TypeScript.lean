/-
  ObligationRuntime.Sdk.TypeScript — the TypeScript client: client.ts, types.ts and validators.ts
  of sdk-ts.

  An operation puts its id into the text of the path, posts its payload, and returns the body
  of the answer as the language parses it: its numbers are doubles, and the keys of an object
  may come in another order.  With `validateResponses` some bodies are checked first; which
  check it is, is looked up in the text of the path.

  Main definitions:
    * `checkOf`, `parseSuccess` — the check of a path, and what becomes of a body,
    * `parseErrorBody` — the error of an answer that is not ok,
    * `perform` — an operation over a gateway,
    * `Misdirected` — the ids that bring an operation to the check of another one.
-/
import Mathlib.Algebra.Group.Nat.Defs
import ObligationRuntime.Lib.PathWords
import ObligationRuntime.Sdk.Operations

namespace ObligationRuntime

open Py Gateway

namespace Sdk

namespace TypeScript

/-! ## §1. validators.ts -/

/-- A schema, as the values that it parses. -/
abbrev Check := Json → Bool

/-- `z.boolean()`. -/
def boolean : Check
  | .bool _ => true
  | _ => false

/-- `z.string()`. -/
def string : Check
  | .str _ => true
  | _ => false

/-- `z.number()`. -/
def number : Check
  | .int _ => true
  | .flt _ => true
  | _ => false

/-- `z.enum([..])`. -/
def enum (words : List String) : Check
  | .str s => decide (s ∈ words)
  | _ => false

/-- `z.array(..)`. -/
def array (item : Check) : Check
  | .arr xs => xs.all item
  | _ => false

/-- A field that is there, and is as it should be. -/
def hasField (d : Dict) (field : String × Check) : Bool :=
  match d.get? field.1 with
  | some v => field.2 v
  | none => false

/-- A field that is as it should be, if it is there: `null` is there. -/
def allowsField (d : Dict) (field : String × Check) : Bool :=
  match d.get? field.1 with
  | some v => field.2 v
  | none => true

/-- `z.object({..})`: the fields, and those that are `.optional()`. -/
def object (fields optional : List (String × Check)) : Check
  | .obj d => fields.all (hasField d) && optional.all (allowsField d)
  | _ => false

/-- `trustLevel`. -/
def trustLevel : Check := enum ["clean", "warning", "blocked"]

/-- `batchVerifyResponseSchema`. -/
def batchVerifyResponseSchema : Check :=
  object
    [("ok", boolean), ("trust_level", trustLevel), ("build", object [("ok", boolean)] []),
      ("axiom_audit", object [("ok", boolean), ("trust_level", trustLevel)]
        [("blocked_reasons", array string)]),
      ("fresh_checker", object [("ok", boolean)] [])]
    [("reasons", array string), ("axiom_evidence_real", boolean),
      ("fresh_evidence_real", boolean)]

/-- `reviewPayloadSchema`. -/
def reviewPayloadSchema : Check :=
  object [("thread_id", string)]
    [("obligation_id", string), ("status", string), ("reasons", array string)]

/-- `resumeResponseSchema`. -/
def resumeResponseSchema : Check :=
  object [("ok", boolean), ("thread_id", string)] [("artifacts_count", number)]

/-! ## §2. types.ts -/

/-- `ObligationRuntimeError`. -/
structure ObligationRuntimeError where
  code : String
  message : String
  statusCode : Nat
  requestId : Option Json := none
  details : Option Json := none
  deriving DecidableEq

/-- How an operation fails: with an error of its own, with a body that is not JSON, or on the
network. -/
inductive Failure where
  | runtime (e : ObligationRuntimeError)
  | syntaxError
  | network
  deriving DecidableEq

/-- Two texts. -/
def texts : Json → Json → Option (String × String)
  | .str a, .str b => some (a, b)
  | _, _ => none

/-- `isApiError`: the error of the body, with its code and message. -/
def apiErrorOf : Json → Option ((String × String) × Dict)
  | .obj body =>
      match Dict.get? body "error" with
      | some (.obj err) =>
          (texts (Dict.getD err "code" .null) (Dict.getD err "message" .null)).map (·, err)
      | _ => none
  | _ => none

/-! ## §3. client.ts -/

/-- What the client takes from the language and from zod: what `JSON.parse` makes of the text
of a value, `String(..)` of a value, the reason phrase of a status, and the message of a body
that does not pass.  A number stays a number, and is the same up to `2 ^ 53`; one that is not
finite counts as one, for zod as well. -/
structure Js where
  parse : Json → Json
  string : Json → String
  statusText : Nat → String
  zodMessage : String → Json → String
  parse_null : parse .null = .null
  parse_bool : ∀ b, parse (.bool b) = .bool b
  parse_str : ∀ s, parse (.str s) = .str s
  parse_number : ∀ v, number v = true → number (parse v) = true
  parse_int : ∀ n : Int, n.natAbs ≤ 2 ^ 53 → parse (.int n) = .int n
  parse_arr : ∀ xs, parse (.arr xs) = .arr (xs.map parse)
  parse_obj : ∀ d : Dict, ∃ d' : Dict, parse (.obj d) = .obj d' ∧
    ∀ key, d'.get? key = (d.get? key).map parse

section

variable (js : Js)

/-- `parseErrorBody`, with the status; a body that is not JSON is none. -/
def parseErrorBody (status : Nat) : Option Json → ObligationRuntimeError
  | none =>
      ⟨"internal_error",
        if js.statusText status = "" then "Unknown error" else js.statusText status,
        status, none, none⟩
  | some body =>
      match apiErrorOf body with
      | some ((code, message), err) =>
          ⟨code, message, status, Dict.get? err "request_id", Dict.get? err "details"⟩
      | none => ⟨"internal_error", js.string body, status, none, none⟩

/-- `path.startsWith(word)`. -/
def startsWith (word path : String) : Bool := word.toList.isPrefixOf path.toList

/-- `path.endsWith(word)`. -/
def endsWith (word path : String) : Bool := decide (word.toList <:+ path.toList)

/-- The check that `parseSuccess` makes for a path. -/
def checkOf (path : String) : Option Check :=
  if contains "/batch-verify" path then some batchVerifyResponseSchema
  else if startsWith "/v1/reviews/" path && !contains "/approve" path &&
      !contains "/reject" path && !contains "/resume" path then some reviewPayloadSchema
  else if endsWith "/resume" path then some resumeResponseSchema
  else none

/-- A body passes the check of a path. -/
def passes (path : String) (data : Json) : Bool :=
  match checkOf path with
  | some check => check data
  | none => true

/-- `parseSuccess`. -/
def parseSuccess (validateResponses : Bool) (path : String) (data : Json) :
    Except Failure Json :=
  if validateResponses && !passes path data then
    .error (.runtime ⟨"response_validation_failed", js.zodMessage path data, 200, none, none⟩)
  else .ok data

/-- `res.ok`. -/
def isOk (status : Nat) : Bool := decide (200 ≤ status) && decide (status ≤ 299)

/-- What `post` and `get` make of an answer, with the value of its text; none if that is not
JSON. -/
def received (validateResponses : Bool) (path : String) (status : Nat) (text : Option Json) :
    Except Failure Json :=
  let body := text.map js.parse
  if isOk status then
    match body with
    | some data => parseSuccess js validateResponses path data
    | none => .error .syntaxError
  else .error (.runtime (parseErrorBody js status body))

end

/-- The last word of the path of an operation on a session. -/
def SessionOperation.word : SessionOperation → String
  | .applyPatch => "apply-patch"
  | .interactiveCheck => "interactive-check"
  | .getGoal => "goal"
  | .hover => "hover"
  | .definition => "definition"
  | .batchVerify => "batch-verify"

/-- The path of an operation: the id is in its text. -/
def url : Call → String
  | .openEnvironment _ => "/v1/environments/open"
  | .createSession _ => "/v1/sessions"
  | .session op sessionId _ => "/v1/sessions/" ++ sessionId ++ "/" ++ SessionOperation.word op
  | .getReviewPayload threadId => "/v1/reviews/" ++ threadId
  | .createPendingReview _ => "/v1/reviews"
  | .submitReviewDecision threadId decision _ => "/v1/reviews/" ++ threadId ++ "/" ++ decision
  | .resume threadId => "/v1/reviews/" ++ threadId ++ "/resume"

/-- **An operation over a gateway**: `http` is how a path arrives. -/
def perform {σ : Type} (http : String → Option String) (env : ServiceEnv) (js : Js)
    (validateResponses : Bool) (H : Handlers σ) (requestId : String) (call : Call) (s : σ) :
    σ × Except Failure Json :=
  match http (url call) with
  | none => (s, .error .network)
  | some arrived =>
      let served := serve env H ⟨call.method, arrived, call.body, requestId⟩ s
      (served.1, received js validateResponses (url call) served.2.status (some served.2.body))

/-! ## §4. Misdirected operations. -/

/-- The id begins with the word that `parseSuccess` looks for first. -/
def batchLike (id : String) : Bool := startsWith "batch-verify" id

/-- **The ids that bring an operation to the check of another one.** -/
def Misdirected : Call → Bool
  | .session op sessionId _ => decide (op ≠ .batchVerify) && batchLike sessionId
  | .getReviewPayload threadId => batchLike threadId || decide (threadId = "resume")
  | .submitReviewDecision threadId _ _ => batchLike threadId
  | .resume threadId => batchLike threadId
  | .openEnvironment _ | .createSession _ | .createPendingReview _ => false

end TypeScript

end Sdk

end ObligationRuntime
