/-
  ObligationRuntime.Guarantees.TypeScriptClient — the TypeScript client over a gateway, with and
  without its checks.

  Without the checks an operation returns the body that the function behind its route has
  answered with, as the language parses it, or raises the error of what that raised.  What
  the checks look at is not changed by the parsing.  They look for their path by its text:
  every answer of the gateway passes the check that was meant for it, and an id that begins
  with "batch-verify", or the thread "resume", brings an operation to a check that its answer
  never passes.  The gateway has done its work then, and the caller is told that it has failed.

  Main results:
    * `checkOf_url` — the check that an operation comes to,
    * `passes_answer` — whether an answer passes the check of its path,
    * `passes_parse` — a check does not see what parsing changes,
    * `typescript_client` — any calls, in any order.
-/
import ObligationRuntime.Guarantees.RemoteGateway
import ObligationRuntime.Sdk.TypeScript

namespace ObligationRuntime

open Py Gateway

namespace Sdk

namespace TypeScript

/-! ## §1. Paths. -/

/-- The segments of an operation's path. -/
def segments : Call → List (List Char)
  | .openEnvironment _ => ["v1".toList, "environments".toList, "open".toList]
  | .createSession _ => ["v1".toList, "sessions".toList]
  | .session op sessionId _ =>
      ["v1".toList, "sessions".toList, sessionId.toList, (SessionOperation.word op).toList]
  | .getReviewPayload threadId => ["v1".toList, "reviews".toList, threadId.toList]
  | .createPendingReview _ => ["v1".toList, "reviews".toList]
  | .submitReviewDecision threadId decision _ =>
      ["v1".toList, "reviews".toList, threadId.toList, decision.toList]
  | .resume threadId => ["v1".toList, "reviews".toList, threadId.toList, "resume".toList]

theorem url_segments (call : Call) : (url call).toList = PathWords.text (segments call) := by
  cases call <;> simp [url, segments]

/-- **The path is the one of the Python client.** -/
theorem url_path (call : Call) : call.path = some (url call) := by
  have hreview : ∀ (threadId word template : String),
      Route.fill (only "thread_id" threadId) template =
        some (Route.path [[], "reviews".toList, threadId.toList, word.toList]) →
      Gateway.pathReview threadId template =
        some ("/v1/reviews/" ++ threadId ++ "/" ++ word) := by
    intro threadId word template hfill
    rw [Gateway.pathReview, hfill, Option.map_some, Option.some.injEq]
    apply String.toList_injective
    simp [Route.path, apiPrefix]
  cases call with
  | openEnvironment payload => rfl
  | createSession payload => rfl
  | createPendingReview payload => rfl
  | session op sessionId payload =>
      have hfill : Route.fill (only "session_id" sessionId) op.template =
          some (Route.path [[], "sessions".toList, sessionId.toList,
            (SessionOperation.word op).toList]) := by
        cases op <;> rfl
      show pathSession sessionId op.template = _
      rw [pathSession, hfill, Option.map_some, Option.some.injEq]
      apply String.toList_injective
      simp [Route.path, apiPrefix, url]
  | getReviewPayload threadId =>
      show Gateway.pathReview threadId pathReviewByThread = _
      rw [pathReview_byThread, Option.some.injEq]
      apply String.toList_injective
      simp [apiPrefix, url]
  | resume threadId =>
      rw [Call.path, hreview threadId "resume" pathReviewResume rfl, Option.some.injEq]
      apply String.toList_injective
      simp [url]
  | submitReviewDecision threadId decision payload =>
      simp only [Call.path]
      split_ifs with happrove hreject
      · subst happrove
        exact hreview threadId "approve" pathReviewApprove rfl
      · subst hreject
        exact hreview threadId "reject" pathReviewReject rfl
      · rw [pathReview_byThread, Option.map_some, Option.some.injEq]
        apply String.toList_injective
        simp [apiPrefix, url]

/-- The segments of a plain call are plain. -/
theorem segments_plain {call : Call} (h : call.Plain) :
    (segments call).all plainSegment = true := by
  have hv1 : plainSegment "v1".toList = true := by decide
  have hsessions : plainSegment "sessions".toList = true := by decide
  have hreviews : plainSegment "reviews".toList = true := by decide
  have hresume : plainSegment "resume".toList = true := by decide
  cases call with
  | openEnvironment payload => rfl
  | createSession payload => rfl
  | createPendingReview payload => rfl
  | session op sessionId payload =>
      have hid : plainSegment sessionId.toList = true := h
      have hword : plainSegment (SessionOperation.word op).toList = true := by cases op <;> decide
      simp only [segments, List.all_cons, List.all_nil, hv1, hsessions, hid, hword, Bool.and_self]
  | getReviewPayload threadId =>
      have hid : plainSegment threadId.toList = true := h
      simp only [segments, List.all_cons, List.all_nil, hv1, hreviews, hid, Bool.and_self]
  | resume threadId =>
      have hid : plainSegment threadId.toList = true := h
      simp only [segments, List.all_cons, List.all_nil, hv1, hreviews, hid, hresume, Bool.and_self]
  | submitReviewDecision threadId decision payload =>
      have hid : plainSegment threadId.toList = true := h.1
      have hword : plainSegment decision.toList = true := h.2
      simp only [segments, List.all_cons, List.all_nil, hv1, hreviews, hid, hword, Bool.and_self]

theorem segments_noSlash {call : Call} (h : call.Plain) : ∀ s ∈ segments call, '/' ∉ s := by
  intro s hs hslash
  have hplain := List.all_eq_true.mp (segments_plain h) s hs
  simp only [plainSegment, Bool.and_eq_true] at hplain
  have hreserved : isUnreserved '/' = true := List.all_eq_true.mp hplain.1.1.2 _ hslash
  revert hreserved
  decide

/-! ## §2. Which check a path has. -/

section

variable {call : Call}

/-- A word behind a slash is in the path where a segment begins with the word. -/
theorem contains_url (h : call.Plain) {text : String} (word : String)
    (htext : text.toList = '/' :: word.toList) (hword : '/' ∉ word.toList) :
    contains text (url call) = (segments call).any fun s => word.toList.isPrefixOf s := by
  rw [Bool.eq_iff_iff, contains, decide_eq_true_eq, htext, url_segments,
    PathWords.slash_infix_iff hword (segments_noSlash h), List.any_eq_true]
  simp only [List.isPrefixOf_iff_prefix]

/-- The path ends in the last segment. -/
theorem endsWith_url (h : call.Plain) {text : String} (word : String)
    (htext : text.toList = '/' :: word.toList) (hword : '/' ∉ word.toList)
    (ss : List (List Char)) (s : List Char) (hlast : segments call = ss ++ [s]) :
    endsWith text (url call) = decide (s = word.toList) := by
  have hs : '/' ∉ s := segments_noSlash h s (by rw [hlast]; simp)
  rw [endsWith, htext, url_segments, hlast, decide_eq_decide]
  exact PathWords.slash_suffix_iff hword hs

/-- The check that an operation comes to. -/
def checkFor : Call → Option Check
  | .session op sessionId _ =>
      if batchLike sessionId || decide (op = .batchVerify) then some batchVerifyResponseSchema
      else none
  | .getReviewPayload threadId =>
      if batchLike threadId then some batchVerifyResponseSchema
      else if startsWith "approve" threadId || startsWith "reject" threadId ||
          startsWith "resume" threadId then
        if threadId = "resume" then some resumeResponseSchema else none
      else some reviewPayloadSchema
  | .submitReviewDecision threadId _ _ =>
      if batchLike threadId then some batchVerifyResponseSchema else none
  | .resume threadId =>
      if batchLike threadId then some batchVerifyResponseSchema else some resumeResponseSchema
  | .openEnvironment _ | .createSession _ | .createPendingReview _ => none

/-- The check of an operation on a session. -/
theorem checkOf_session {op : SessionOperation} {sessionId : String} {payload : Dict}
    (h : (Call.session op sessionId payload).Plain) :
    checkOf (url (.session op sessionId payload)) = checkFor (.session op sessionId payload) := by
  have hbatch : contains "/batch-verify" (url (.session op sessionId payload)) =
      (batchLike sessionId || decide (op = .batchVerify)) := by
    rw [contains_url h "batch-verify" rfl (by decide)]
    cases op <;> simp [segments, batchLike, startsWith, SessionOperation.word, List.isPrefixOf]
  have hreviews : startsWith "/v1/reviews/" (url (.session op sessionId payload)) = false := by
    simp [startsWith, url, List.isPrefixOf]
  have hend : endsWith "/resume" (url (.session op sessionId payload)) = false := by
    rw [endsWith_url h "resume" rfl (by decide)
      ["v1".toList, "sessions".toList, sessionId.toList] (SessionOperation.word op).toList rfl]
    cases op <;> decide
  simp only [checkOf, hbatch, hreviews, hend]
  simp [checkFor]

/-- The thread, or what follows it in the path of its review, begins with the word. -/
def mentions (threadId : String) (rest : List (List Char)) (word : String) : Bool :=
  startsWith word threadId || rest.any fun s => word.toList.isPrefixOf s

/-- **The check of a path below the reviews.** -/
theorem checkOf_review (h : call.Plain) {threadId : String} {rest : List (List Char)}
    (hsegments : segments call = "v1".toList :: "reviews".toList :: threadId.toList :: rest) :
    checkOf (url call) =
      if mentions threadId rest "batch-verify" then some batchVerifyResponseSchema
      else if mentions threadId rest "approve" || mentions threadId rest "reject" ||
          mentions threadId rest "resume" then
        if endsWith "/resume" (url call) then some resumeResponseSchema else none
      else some reviewPayloadSchema := by
  have hword : ∀ text word : String, text.toList = '/' :: word.toList → '/' ∉ word.toList →
      word.toList.isPrefixOf "v1".toList = false →
      word.toList.isPrefixOf "reviews".toList = false →
      contains text (url call) = mentions threadId rest word := by
    intro text word htext hslash hv1 hreviews
    rw [contains_url h word htext hslash, hsegments]
    simp only [List.any_cons, hv1, hreviews, Bool.false_or, mentions, startsWith]
  have hbelow : startsWith "/v1/reviews/" (url call) = true := by
    rw [startsWith, url_segments, hsegments]
    simp [List.isPrefixOf]
  simp only [checkOf, hbelow, hword "/batch-verify" "batch-verify" rfl (by decide) rfl rfl,
    hword "/approve" "approve" rfl (by decide) rfl rfl,
    hword "/reject" "reject" rfl (by decide) rfl rfl,
    hword "/resume" "resume" rfl (by decide) rfl rfl]
  cases mentions threadId rest "approve" <;> cases mentions threadId rest "reject" <;>
    cases mentions threadId rest "resume" <;> simp

/-- The end of a review's path. -/
theorem endsWith_resume (h : call.Plain) (ss : List (List Char)) {last : String}
    (hlast : segments call = ss ++ [last.toList]) :
    endsWith "/resume" (url call) = decide (last = "resume") := by
  rw [endsWith_url h "resume" rfl (by decide) _ _ hlast, decide_eq_decide]
  exact String.toList_inj

/-- A path without the three words. -/
theorem checkOf_none {path : String} (hbatch : contains "/batch-verify" path = false)
    (hreviews : startsWith "/v1/reviews/" path = false)
    (hresume : endsWith "/resume" path = false) : checkOf path = none := by
  simp [checkOf, hbatch, hreviews, hresume]

/-- The check of a decision on a review, or of its resume. -/
theorem checkOf_decision (h : call.Plain) {threadId word : String} (hword : word ∈ decisionWords)
    (hsegments : segments call =
      ["v1".toList, "reviews".toList, threadId.toList, word.toList]) :
    checkOf (url call) =
      if batchLike threadId then some batchVerifyResponseSchema
      else if word = "resume" then some resumeResponseSchema else none := by
  have hbatch : mentions threadId [word.toList] "batch-verify" = batchLike threadId := by
    have hnone : ∀ word ∈ decisionWords,
        "batch-verify".toList.isPrefixOf word.toList = false := by decide
    simp only [mentions, List.any_cons, List.any_nil, hnone word hword, Bool.or_false, batchLike]
  have hown : (mentions threadId [word.toList] "approve" || mentions threadId [word.toList] "reject"
      || mentions threadId [word.toList] "resume") = true := by
    have hbegins : ∀ word ∈ decisionWords,
        ("approve".toList.isPrefixOf word.toList || "reject".toList.isPrefixOf word.toList ||
          "resume".toList.isPrefixOf word.toList) = true := by
      decide
    have := hbegins word hword
    simp only [Bool.or_eq_true] at this
    simp only [mentions, List.any_cons, Bool.or_eq_true]
    tauto
  have hlast : segments call =
      ["v1".toList, "reviews".toList, threadId.toList] ++ [word.toList] := hsegments
  rw [checkOf_review h hsegments, endsWith_resume h _ hlast, hbatch, hown, if_pos rfl]
  by_cases hresume : word = "resume" <;> simp only [hresume, decide_true, decide_false]
  rfl

/-- **The check that an operation comes to.** -/
theorem checkOf_url (h : call.Plain) (htyped : call.target.isSome) :
    checkOf (url call) = checkFor call := by
  cases call with
  | openEnvironment payload =>
      have hurl : url (.openEnvironment payload) = "/v1/environments/open" := rfl
      rw [hurl]
      exact checkOf_none (by decide) (by decide) (by decide)
  | createSession payload =>
      have hurl : url (.createSession payload) = "/v1/sessions" := rfl
      rw [hurl]
      exact checkOf_none (by decide) (by decide) (by decide)
  | createPendingReview payload =>
      have hurl : url (.createPendingReview payload) = "/v1/reviews" := rfl
      rw [hurl]
      exact checkOf_none (by decide) (by decide) (by decide)
  | session op sessionId payload => exact checkOf_session h
  | getReviewPayload threadId =>
      rw [checkOf_review h rfl, endsWith_resume h ["v1".toList, "reviews".toList] rfl]
      simp [checkFor, mentions, batchLike]
  | resume threadId => exact checkOf_decision h (by decide) rfl
  | submitReviewDecision threadId decision payload =>
      simp only [Call.target] at htyped
      split_ifs at htyped with happrove hreject
      · subst happrove
        exact checkOf_decision h (by decide) rfl
      · subst hreject
        exact checkOf_decision h (by decide) rfl
      · cases htyped

/-! ## §3. Which answers pass. -/

theorem array_strList (xs : List String) : array string (strList.dump xs) = true := by
  show (xs.map Json.str).all string = true
  simp [string]

theorem trustLevel_text (t : TrustLevel) : trustLevel (.str t.text) = true := by
  cases t <;> decide

/-- A verification passes its check. -/
theorem batchVerify_passes (r : BatchVerifyResult) :
    batchVerifyResponseSchema (.obj r.dump) = true := by
  have hbuild : object [("ok", boolean)] [] (.obj r.build.dump) = true := rfl
  have hfresh : object [("ok", boolean)] [] (.obj r.freshChecker.dump) = true := rfl
  have haudit : object [("ok", boolean), ("trust_level", trustLevel)]
      [("blocked_reasons", array string)] (.obj r.axiomAudit.dump) = true := by
    simp [object, hasField, allowsField, AxiomAuditResult.dump, VersionedRecord.dump, boolean,
      trustLevel_text, array_strList]
  simp only [batchVerifyResponseSchema, object, List.all_cons, List.all_nil]
  simp [hasField, allowsField, BatchVerifyResult.dump, VersionedRecord.dump, hbuild, hfresh,
    haudit, trustLevel_text, array_strList, boolean]

/-- A review passes its check. -/
theorem review_passes (r : ReviewPayload) : reviewPayloadSchema (.obj r.dump) = true := by
  simp [reviewPayloadSchema, object, hasField, allowsField, ReviewPayload.dump, string,
    array_strList]

/-- The answer to a resume passes its check. -/
theorem resume_passes (r : ReviewResumeProxyResponse) :
    resumeResponseSchema (.obj r.dump) = true := rfl

/-- **No other answer passes the check of a verification**: it has no trust level. -/
theorem batchVerify_refuses {e : Endpoint} (he : e ≠ .batchVerify) {a : Answer}
    (ha : Answers e a) : batchVerifyResponseSchema (.obj a.dump) = false := by
  have hkey : Dict.get? a.dump "trust_level" = none := by
    cases e with
    | batchVerify => exact absurd rfl he
    | _ =>
        obtain ⟨r, rfl⟩ := ha
        rfl
  simp [batchVerifyResponseSchema, object, hasField, hkey]

/-- A review has no verdict of its own. -/
theorem resume_refuses (r : ReviewPayload) : resumeResponseSchema (.obj r.dump) = false := rfl

/-- **Whether an answer passes** the check of its path. -/
theorem passes_answer (h : call.Plain) {e : Endpoint} {id : String}
    (htarget : call.target = some (e, id)) {a : Answer} (ha : Answers e a) :
    passes (url call) (.obj a.dump) = !Misdirected call := by
  rw [passes, checkOf_url h (by rw [htarget]; rfl)]
  cases call with
  | openEnvironment payload => rfl
  | createSession payload => rfl
  | createPendingReview payload => rfl
  | session op sessionId payload =>
      obtain ⟨rfl, rfl⟩ := Prod.mk.inj (Option.some.inj htarget)
      by_cases hop : op = .batchVerify
      · subst hop
        obtain ⟨r, rfl⟩ := ha
        simp [checkFor, Misdirected, Answer.dump, batchVerify_passes]
      · have hne : op.endpoint ≠ .batchVerify := by
          intro heq
          apply hop
          cases op <;> first | rfl | cases heq
        cases hbatch : batchLike sessionId with
        | true => simp [checkFor, Misdirected, hop, hbatch, batchVerify_refuses hne ha]
        | false => simp [checkFor, Misdirected, hop, hbatch]
  | getReviewPayload threadId =>
      obtain ⟨rfl, rfl⟩ := Prod.mk.inj (Option.some.inj htarget)
      cases hbatch : batchLike threadId with
      | true =>
          simp [checkFor, Misdirected, hbatch,
            batchVerify_refuses (show Endpoint.getReview ≠ .batchVerify by decide) ha]
      | false =>
          obtain ⟨r, rfl⟩ := ha
          by_cases hresume : threadId = "resume"
          · subst hresume
            have hstarts : startsWith "resume" "resume" = true := by decide
            simp only [checkFor, hbatch, hstarts]
            simp [Misdirected, Answer.dump, resume_refuses]
          · simp only [checkFor, hbatch, if_neg hresume]
            split_ifs <;> simp_all [Misdirected, Answer.dump, review_passes]
  | resume threadId =>
      obtain ⟨rfl, rfl⟩ := Prod.mk.inj (Option.some.inj htarget)
      cases hbatch : batchLike threadId with
      | true =>
          simp [checkFor, Misdirected, hbatch,
            batchVerify_refuses (show Endpoint.resumeReview ≠ .batchVerify by decide) ha]
      | false =>
          obtain ⟨r, rfl⟩ := ha
          simp [checkFor, Misdirected, hbatch, Answer.dump, resume_passes]
  | submitReviewDecision threadId decision payload =>
      have hne : e ≠ .batchVerify := by
        simp only [Call.target] at htarget
        split_ifs at htarget
        all_goals
          obtain ⟨rfl, rfl⟩ := Prod.mk.inj (Option.some.inj htarget)
          decide
      cases hbatch : batchLike threadId with
      | true => simp [checkFor, Misdirected, hbatch, batchVerify_refuses hne ha]
      | false => simp [checkFor, Misdirected, hbatch]

/-- An error passes no check. -/
theorem passes_envelope (h : call.Plain) (htyped : call.target.isSome) (code message : Json)
    (requestId : String) :
    passes (url call) (.obj (errorEnvelope code message requestId)) = (checkFor call).isNone := by
  have hbatch : batchVerifyResponseSchema (.obj (errorEnvelope code message requestId)) = false :=
    rfl
  have hreview : reviewPayloadSchema (.obj (errorEnvelope code message requestId)) = false := rfl
  have hresume : resumeResponseSchema (.obj (errorEnvelope code message requestId)) = false := rfl
  rw [passes, checkOf_url h htyped]
  cases call with
  | openEnvironment payload => rfl
  | createSession payload => rfl
  | createPendingReview payload => rfl
  | _ =>
      simp only [checkFor]
      split_ifs <;> simp [hbatch, hreview, hresume]

/-! ## §4. What is parsed. -/

section

variable {js : Js}

/-- The check does not see what parsing changes. -/
def Blind (js : Js) (check : Check) : Prop := ∀ v, check (js.parse v) = check v

/-- **A check is blind** that is blind to the kinds of values. -/
theorem blind_of {check : Check} (hint : ∀ n m, check (.int n) = check (.int m))
    (hflt : ∀ n q, check (.int n) = check (.flt q))
    (harr : ∀ xs, check (.arr (xs.map js.parse)) = check (.arr xs))
    (hobj : ∀ d d' : Dict, (∀ key, d'.get? key = (d.get? key).map js.parse) →
      check (.obj d') = check (.obj d)) : Blind js check := by
  have hnumber : ∀ v, number v = true → check v = check (.int 0) := by
    intro v hv
    cases v with
    | int n => exact hint n 0
    | flt q => exact (hflt 0 q).symm
    | _ => cases hv
  intro v
  cases v with
  | null => rw [js.parse_null]
  | bool b => rw [js.parse_bool]
  | str s => rw [js.parse_str]
  | int n => rw [hnumber _ (js.parse_number _ rfl), hnumber (.int n) rfl]
  | flt q => rw [hnumber _ (js.parse_number _ rfl), hnumber (.flt q) rfl]
  | arr xs => rw [js.parse_arr, harr]
  | obj d =>
      obtain ⟨d', hd', hget⟩ := js.parse_obj d
      rw [hd', hobj d d' hget]

theorem blind_boolean : Blind js boolean :=
  blind_of (fun _ _ => rfl) (fun _ _ => rfl) (fun _ => rfl) fun _ _ _ => rfl

theorem blind_string : Blind js string :=
  blind_of (fun _ _ => rfl) (fun _ _ => rfl) (fun _ => rfl) fun _ _ _ => rfl

theorem blind_number : Blind js number :=
  blind_of (fun _ _ => rfl) (fun _ _ => rfl) (fun _ => rfl) fun _ _ _ => rfl

theorem blind_enum (words : List String) : Blind js (enum words) :=
  blind_of (fun _ _ => rfl) (fun _ _ => rfl) (fun _ => rfl) fun _ _ _ => rfl

theorem blind_array {item : Check} (h : Blind js item) : Blind js (array item) := by
  refine blind_of (fun _ _ => rfl) (fun _ _ => rfl) (fun xs => ?_) fun _ _ _ => rfl
  show (xs.map js.parse).all item = xs.all item
  rw [List.all_map]
  exact congrArg xs.all (funext h)

theorem blind_object {fields optional : List (String × Check)}
    (hfields : ∀ f ∈ fields, Blind js f.2) (hoptional : ∀ f ∈ optional, Blind js f.2) :
    Blind js (object fields optional) := by
  refine blind_of (fun _ _ => rfl) (fun _ _ => rfl) (fun _ => rfl) fun d d' hget => ?_
  have hhas : ∀ f ∈ fields, hasField d' f = hasField d f := by
    intro f hf
    unfold hasField
    rw [hget f.1]
    cases Dict.get? d f.1 with
    | none => rfl
    | some v => exact hfields f hf v
  have hallows : ∀ f ∈ optional, allowsField d' f = allowsField d f := by
    intro f hf
    unfold allowsField
    rw [hget f.1]
    cases Dict.get? d f.1 with
    | none => rfl
    | some v => exact hoptional f hf v
  have hall : ∀ {p q : String × Check → Bool} {fs : List (String × Check)},
      (∀ f ∈ fs, p f = q f) → fs.all p = fs.all q := fun h => by
    rw [List.all_eq, List.all_eq]
    exact decide_eq_decide.mpr (forall₂_congr fun f hf => by rw [h f hf])
  show (fields.all (hasField d') && optional.all (allowsField d')) =
    (fields.all (hasField d) && optional.all (allowsField d))
  rw [hall hhas, hall hallows]

/-- The fields of a schema, one by one. -/
theorem blind_fields {fields : List (String × Check)}
    (h : fields.Forall fun f => Blind js f.2) : ∀ f ∈ fields, Blind js f.2 :=
  List.forall_iff_forall_mem.mp h

theorem blind_batchVerify : Blind js batchVerifyResponseSchema := by
  have hok : Blind js (object [("ok", boolean)] []) :=
    blind_object (blind_fields blind_boolean) (blind_fields trivial)
  have haudit : Blind js (object [("ok", boolean), ("trust_level", trustLevel)]
      [("blocked_reasons", array string)]) :=
    blind_object (blind_fields ⟨blind_boolean, blind_enum _⟩)
      (blind_fields (blind_array blind_string))
  exact blind_object (blind_fields ⟨blind_boolean, blind_enum _, hok, haudit, hok⟩)
    (blind_fields ⟨blind_array blind_string, blind_boolean, blind_boolean⟩)

theorem blind_reviewPayload : Blind js reviewPayloadSchema :=
  blind_object (blind_fields blind_string)
    (blind_fields ⟨blind_string, blind_string, blind_array blind_string⟩)

theorem blind_resumeResponse : Blind js resumeResponseSchema :=
  blind_object (blind_fields ⟨blind_boolean, blind_string⟩) (blind_fields blind_number)

/-- **A check does not see what parsing changes.** -/
theorem passes_parse (path : String) (v : Json) : passes path (js.parse v) = passes path v := by
  unfold passes checkOf
  split_ifs
  · exact blind_batchVerify v
  · exact blind_reviewPayload v
  · exact blind_resumeResponse v
  · rfl

end

/-! ## §5. One operation. -/

section

variable {σ : Type} {http : String → Option String}

/-- The error of what was raised. -/
def errorTold (js : Js) (requestId : String) (a : ErrorAnswer) : ObligationRuntimeError :=
  match texts a.code a.message with
  | some (code, message) =>
      ⟨code, message, a.status, some (.str requestId), some (js.parse (.obj []))⟩
  -- A code that is no text is none, and the whole body is the message.
  | none =>
      ⟨"internal_error", js.string (js.parse (.obj (errorEnvelope a.code a.message requestId))),
        a.status, none, none⟩

/-- The error of a body that does not pass. -/
def notPassed (js : Js) (call : Call) (body : Dict) : Failure :=
  .runtime ⟨"response_validation_failed", js.zodMessage (url call) (js.parse (.obj body)), 200,
    none, none⟩

/-- **What the caller is told.** -/
def tell (env : ServiceEnv) (js : Js) (validateResponses : Bool) (requestId : String)
    (call : Call) : Except Refusal Answer → Except Failure Json
  | .ok a =>
      if validateResponses && Misdirected call then .error (notPassed js call a.dump)
      else .ok (js.parse (.obj a.dump))
  | .error (.raised r) =>
      let a := r.answer env
      if isOk a.status then
        -- An error with the status of a success is taken for an answer.
        let envelope := errorEnvelope a.code a.message requestId
        if validateResponses && (checkFor call).isSome then .error (notPassed js call envelope)
        else .ok (js.parse (.obj envelope))
      else .error (.runtime (errorTold js requestId a))
  | .error (.body e) =>
      .error (.runtime
        ⟨"internal_error", js.string (js.parse (.obj [("detail", env.bodyErrors e)])), 422, none,
          none⟩)

/-- A text is parsed as itself, and nothing else as a text. -/
theorem parse_eq_str {js : Js} {v : Json} {s : String} : js.parse v = .str s ↔ v = .str s := by
  have hblind : string (js.parse v) = string v := blind_string v
  cases v with
  | str t => rw [js.parse_str]
  | _ =>
      refine ⟨fun h => ?_, fun h => nomatch h⟩
      rw [h] at hblind
      cases hblind

theorem texts_eq_some {v w : Json} {p : String × String} :
    texts v w = some p ↔ v = .str p.1 ∧ w = .str p.2 := by
  constructor
  · intro h
    cases v <;> cases w <;> cases h
    exact ⟨rfl, rfl⟩
  · rintro ⟨rfl, rfl⟩
    rfl

theorem texts_parse {js : Js} (v w : Json) : texts (js.parse v) (js.parse w) = texts v w := by
  ext p
  rw [texts_eq_some, texts_eq_some, parse_eq_str, parse_eq_str]

/-- **The error of the gateway**, parsed. -/
theorem parseErrorBody_envelope (js : Js) (requestId : String) (a : ErrorAnswer) :
    parseErrorBody js a.status
        (some (js.parse (.obj (errorEnvelope a.code a.message requestId)))) =
      errorTold js requestId a := by
  obtain ⟨status, code, message⟩ := a
  obtain ⟨body, hbody, herror⟩ := js.parse_obj (errorEnvelope code message requestId)
  obtain ⟨err, herr, hfields⟩ := js.parse_obj
    [("code", code), ("message", message), ("request_id", .str requestId), ("details", .obj [])]
  have hgot : Dict.get? body "error" = some (.obj err) :=
    (herror "error").trans (congrArg some herr)
  have hcode : Dict.getD err "code" .null = js.parse code := by
    rw [Dict.getD, hfields "code"]
    rfl
  have hmessage : Dict.getD err "message" .null = js.parse message := by
    rw [Dict.getD, hfields "message"]
    rfl
  have hid : Dict.get? err "request_id" = some (.str requestId) :=
    (hfields "request_id").trans (congrArg some (js.parse_str requestId))
  have hdetails : Dict.get? err "details" = some (js.parse (.obj [])) := hfields "details"
  have herrorOf : apiErrorOf (.obj body) = (texts code message).map (·, err) := by
    simp only [apiErrorOf, hgot, hcode, hmessage, texts_parse]
  simp only [hbody, parseErrorBody, herrorOf, errorTold]
  cases texts code message with
  | none => simp only [Option.map_none]
  | some p => simp only [Option.map_some, hid, hdetails]

/-- A refusal of the framework is no error of the gateway. -/
theorem parseErrorBody_detail (js : Js) (status : Nat) (detail : Json) :
    parseErrorBody js status (some (js.parse (.obj [("detail", detail)]))) =
      ⟨"internal_error", js.string (js.parse (.obj [("detail", detail)])), status, none,
        none⟩ := by
  obtain ⟨body, hbody, hfields⟩ := js.parse_obj [("detail", detail)]
  have hnone : Dict.get? body "error" = none := hfields "error"
  simp only [hbody, parseErrorBody, apiErrorOf, hnone]

/-- **One operation** over a gateway. -/
theorem perform_target (hhttp : Delivers http) (env : ServiceEnv) (js : Js)
    (validateResponses : Bool) (H : Handlers σ) (requestId : String) (s : σ) (h : call.Plain)
    {e : Endpoint} {id : String} (htarget : call.target = some (e, id)) :
    perform http env js validateResponses H requestId call s =
      ((e.run H id call.body s).1,
        tell env js validateResponses requestId call (e.run H id call.body s).2) := by
  obtain ⟨path, bound, hpath, hplain, hroute, hbound⟩ := path_target h htarget
  rw [url_path, Option.some.injEq] at hpath
  subst hpath
  have htyped : call.target.isSome := by rw [htarget]; rfl
  rw [perform, hhttp _ hplain]
  simp only [serve, hroute, hbound]
  cases hrun : (e.run H id call.body s).2 with
  | ok a =>
      have hpasses := passes_answer h htarget (run_answers hrun)
      simp [replyOf, received, isOk, parseSuccess, passes_parse, hpasses, tell, notPassed]
  | error r =>
      cases r with
      | body e =>
          have hdetail := parseErrorBody_detail js 422 (env.bodyErrors e)
          simp [replyOf, received, isOk, tell, hdetail]
      | raised r =>
          have hpasses := passes_envelope h htyped (r.answer env).code (r.answer env).message
            requestId
          cases hok : isOk (r.answer env).status with
          | true =>
              cases hcheck : checkFor call <;>
                simp [replyOf, ErrorAnswer.reply, received, parseSuccess, tell, notPassed, hok,
                  passes_parse, hpasses, hcheck]
          | false =>
              simp [replyOf, ErrorAnswer.reply, received, tell, hok, parseErrorBody_envelope]

end

end

/-! ## §6. Any calls. -/

section

variable {σ : Type}

/-- A call on its way, with its ids plain and a decision that is one of the two: what the
functions of the gateway do at that time, whether the client checks its answers, and the id
the request is given. -/
structure TypedCall (σ : Type) where
  handlers : Handlers σ
  validateResponses : Bool
  requestId : String
  call : Call
  endpoint : Endpoint
  id : String
  plain : call.Plain
  target : call.target = some (endpoint, id)

/-- The call over the gateway. -/
def clientCall (http : String → Option String) (env : ServiceEnv) (js : Js) (s : σ)
    (c : TypedCall σ) : σ × Except Failure Json :=
  perform http env js c.validateResponses c.handlers c.requestId c.call s

/-- The same call on the functions of the gateway. -/
def gatewayCall (env : ServiceEnv) (js : Js) (s : σ) (c : TypedCall σ) :
    σ × Except Failure Json :=
  let ended := c.endpoint.run c.handlers c.id c.call.body s
  (ended.1, tell env js c.validateResponses c.requestId c.call ended.2)

/-- **TypeScript clients of a gateway**, in any order and whatever the functions behind its
routes do: each call does what the function does that it is for, also where the client then
refuses the answer, and returns the body, or raises the error, that `tell` says. -/
theorem typescript_client {http : String → Option String} (hhttp : Delivers http)
    (env : ServiceEnv) (js : Js) (s : σ) (calls : List (TypedCall σ)) :
    Transition.answers (clientCall http env js) s calls =
        Transition.answers (gatewayCall env js) s calls ∧
      Transition.run (fun s c => (clientCall http env js s c).1) s calls =
        Transition.run (fun s c => (gatewayCall env js s c).1) s calls := by
  have hcall : clientCall http env js = gatewayCall env js (σ := σ) := by
    funext s c
    exact perform_target hhttp env js c.validateResponses c.handlers c.requestId s c.plain c.target
  rw [hcall]
  exact ⟨rfl, rfl⟩

end

namespace Scripted

/-- A language with plain words, for bodies whose numbers are small and whose keys are no
numbers. -/
def words : Js where
  parse v := v
  string _ := "[object Object]"
  statusText _ := "Bad Request"
  zodMessage _ _ := "Required"
  parse_null := rfl
  parse_bool _ := rfl
  parse_str _ := rfl
  parse_number _ h := h
  parse_int _ _ := rfl
  parse_arr xs := by rw [List.map_id']
  parse_obj d := ⟨d, rfl, fun key => Option.map_id'.symm⟩

/-- A decision on a review of the threads, by a client that checks its answers. -/
def approve (threadId : String) (h : PlainId threadId) : TypedCall (List String) :=
  ⟨Sdk.Scripted.sessionless, true, "req_1", .submitReviewDecision threadId "approve" [],
    .approveReview, threadId, ⟨h, by decide⟩, rfl⟩

/-- The code of an error. -/
def codeOf : Except Failure Json → Option (Nat × String)
  | .error (.runtime e) => some (e.statusCode, e.code)
  | _ => none

/-- A thread that is named like the check of a verification: the review is approved, and the
client says that it has failed. -/
theorem typescript_client_scripted :
    (Transition.answers (clientCall some Sdk.Scripted.service words) ["t-1", "batch-verify-1"]
        [approve "t-1" (by decide), approve "t-2" (by decide),
          approve "batch-verify-1" (by decide)]).map codeOf =
      [none, some (400, "bad_request"), some (200, "response_validation_failed")] :=
  (congrArg _ (typescript_client (fun _ _ => rfl) Sdk.Scripted.service words
    ["t-1", "batch-verify-1"] _).1).trans (by decide)

end Scripted

end TypeScript

end Sdk

end ObligationRuntime
