/-
  ObligationRuntime.Guarantees.LspCorrelation — whose message a call of the language server
  client takes for its result, when the calls share one server.

  The server's messages stand in the order it sends them, each with the call it is meant
  for, which the client does not see.  A call sends `didOpen` and, unless it is a check, a
  request; its script is what the server sends before the request, between the request and
  the response, and after it.  What one call leaves unread is there for the next.

  Main results:
    * `right_iff` — what one call takes, by what is unread and by its script,
    * `Right.returnsOwn` — a call that takes its own returns its own,
    * `correlated_iff` — when every call of a run takes its own,
    * `lockstep_correlated` — a server that sends one message before each request.
-/
import ObligationRuntime.Gateway.LspClient
import ObligationRuntime.Lib.Transition

namespace ObligationRuntime

open Py Transition

namespace Lsp

/-! ## §1. The server's messages. -/

/-- A message that answers no request. -/
inductive Notice where
  | notification (method : String) (params : Json) (other : method ≠ publishMethod)
  | diagnostics (call : Nat) (params : Json)

/-- A message, with the call it is meant for. -/
inductive Message where
  | notice (n : Notice)
  | response (call : Nat) (id : Int) (reply : Except Json Json)

/-- What the client reads of it. -/
def Message.json : Message → Json
  | .notice (.notification method params _) =>
      .obj [("jsonrpc", .str "2.0"), ("method", .str method), ("params", params)]
  | .notice (.diagnostics _ params) =>
      .obj [("jsonrpc", .str "2.0"), ("method", .str publishMethod), ("params", params)]
  | .response _ id (.ok result) =>
      .obj [("jsonrpc", .str "2.0"), ("id", .int id), ("result", result)]
  | .response _ id (.error error) =>
      .obj [("jsonrpc", .str "2.0"), ("id", .int id), ("error", error)]

/-- The call a response or diagnostics are meant for. -/
def Message.owner : Message → Option Nat
  | .notice (.notification ..) => none
  | .notice (.diagnostics call _) => some call
  | .response call .. => some call

/-- A read of a message that is delivered in time. -/
def Message.delivered (m : Message) : Delivery := .ok (some m.json)

/-! ## §2. Runs. -/

/-- A call, with its script. -/
inductive LspCall where
  | check (file : String) (sent : List Notice)
  | query (q : Query) (filePath : String) (line column : Int)
      (early between late : List Notice) (reply : Except Json Json)

/-- The client and its server: the messages sent and not read yet, the number of the next
call, and whether a call is still waiting. -/
structure Process where
  unread : List Message := []
  next : Nat := 0
  waiting : Bool := false

/-- The message a call takes for its result, and what it leaves unread. -/
def takes (s : Process) : LspCall → Option (Message × List Message)
  | .check file sent =>
      let r := waitDiagnostics Message.delivered file (s.unread ++ sent.map Message.notice)
      r.2.1.map fun m => (m, r.2.2)
  | .query q _ _ _ early between late reply =>
      readResponse (s.unread ++ early.map .notice)
        (between.map .notice ++ .response s.next q.id reply :: late.map .notice)

/-- The message a call takes; while another call waits it takes none. -/
def taken (s : Process) (c : LspCall) : Option Message :=
  if s.waiting then none else (takes s c).map Prod.fst

/-- A call.  One that takes no message goes on waiting. -/
def Process.call (s : Process) (c : LspCall) : Process :=
  match s.waiting, takes s c with
  | false, some (_, rest) => { unread := rest, next := s.next + 1 }
  | _, _ => { s with next := s.next + 1, waiting := true }

/-- What a call returns on the message it takes. -/
def LspCall.returns (str : Json → String) (c : LspCall) (m : Message) : Except PyError Json :=
  match c with
  | .check file _ =>
      (atEnd Message.delivered file (some m)).map fun ds =>
        .arr [.arr (ds.map .obj), .arr [], .bool (noError ds)]
  | .query q path line column .. => q.answer str path line column (some m.json)

/-- What a call returns; one that takes no message returns nothing. -/
def returned (str : Json → String) (s : Process) (c : LspCall) : Option (Except PyError Json) :=
  (taken s c).map (c.returns str)

/-- **The call takes what is its own**: a request the response to it, and a check no
message that is meant for another call. -/
def Right (s : Process) (c : LspCall) : Prop :=
  match c with
  | .check .. => ∀ m, taken s c = some m → m.owner = some s.next
  | .query q _ _ _ _ _ _ reply => taken s c = some (.response s.next q.id reply)

/-- The content of the reply to a request: one without a result is an empty one. -/
def Query.content (str : Json → String) (q : Query) (path : String) (line column : Int) :
    Except Json Json → Json
  | .ok result => q.made str path line column result
  | .error _ => q.empty

/-- **The call returns what is its own**: a request the content of the response to it, and a
check, if anything, the diagnostics of a message that is meant for it. -/
def ReturnsOwn (str : Json → String) (s : Process) (c : LspCall) : Prop :=
  match c with
  | .check file _ => ∀ r, returned str s c = some r → ∃ params,
      r = (published file (Message.notice (.diagnostics s.next params)).json).map fun ds =>
        .arr [.arr (ds.map .obj), .arr [], .bool (noError ds)]
  | .query q path line column _ _ _ reply =>
      returned str s c = some (.ok (q.content str path line column reply))

/-- **Every call of the run takes what is its own.** -/
def Correlated (calls : List LspCall) : Prop := Meets Process.call Right {} calls

/-- The condition: a request has one message before it and none between it and its response,
and the first message that ends a check is meant for it. -/
def Fits (s : Process) : LspCall → Prop
  | .check _ sent =>
      s.waiting = false → ∀ m,
        (s.unread ++ sent.map Message.notice).find? (endsWait Message.delivered) = some m →
          m.owner = some s.next
  | .query _ _ _ _ early between _ _ =>
      s.waiting = false ∧ s.unread.length + early.length = 1 ∧ between = []

/-! ## §3. One call. -/

/-- **The invariant**: an unread response is to a call made before. -/
def Past (s : Process) : Prop :=
  ∀ call id reply, Message.response call id reply ∈ s.unread → call < s.next

theorem response_not_mem_notices (call : Nat) (id : Int) (reply : Except Json Json)
    (ns : List Notice) : Message.response call id reply ∉ ns.map Message.notice := by
  intro hm
  obtain ⟨n, -, hn⟩ := List.mem_map.mp hm
  cases hn

theorem readResponse_subset {M : Type} {before after rest : List M} {m : M}
    (h : readResponse before after = some (m, rest)) : ∀ x ∈ rest, x ∈ before ++ after := by
  intro x hx
  unfold readResponse at h
  split at h
  · cases h
  next first unread =>
    split at h
    · cases h
    next m' rest' heq =>
      cases h
      have hmem : x ∈ unread ++ after := heq ▸ List.mem_cons_of_mem _ hx
      exact List.mem_cons_of_mem _ hmem

theorem waitDiagnostics_subset {M : Type} (body : M → Delivery) (file : String) (ms : List M) :
    ∀ x ∈ (waitDiagnostics body file ms).2.2, x ∈ ms := by
  induction ms with
  | nil => exact fun x hx => hx
  | cons m ms ih =>
      intro x hx
      unfold waitDiagnostics at hx
      split at hx
      · exact List.mem_cons_of_mem _ hx
      · exact List.mem_cons_of_mem _ hx
      · split at hx
        · exact List.mem_cons_of_mem _ hx
        · exact List.mem_cons_of_mem _ hx
        · exact List.mem_cons_of_mem _ hx
        · exact List.mem_cons_of_mem _ (ih x hx)

/-- What a call leaves unread was unread before, or is in its script. -/
theorem takes_subset {s : Process} {c : LspCall} {m : Message} {rest : List Message}
    (h : takes s c = some (m, rest)) {call : Nat} {id : Int} {reply : Except Json Json}
    (hrest : Message.response call id reply ∈ rest) :
    Message.response call id reply ∈ s.unread ∨ call = s.next := by
  cases c with
  | check file sent =>
      obtain ⟨m', -, hpair⟩ := Option.map_eq_some_iff.mp h
      have hleft : rest = _ := (Prod.mk.inj hpair).2.symm
      have hall := waitDiagnostics_subset Message.delivered file
        (s.unread ++ sent.map Message.notice) _ (hleft ▸ hrest)
      rcases List.mem_append.mp hall with hunread | hsent
      · exact .inl hunread
      · exact absurd hsent (response_not_mem_notices call id reply sent)
  | query q path line column early between late own =>
      have hall := readResponse_subset h _ hrest
      simp only [List.mem_append, List.mem_cons, response_not_mem_notices, or_false,
        false_or] at hall
      rcases hall with hunread | hown
      · exact .inl hunread
      · exact .inr (Message.response.inj hown).1

theorem Past.call {s : Process} (h : Past s) (c : LspCall) : Past (s.call c) := by
  intro call id reply hmem
  unfold Process.call at hmem ⊢
  split at hmem
  next m rest hwait htakes =>
    rcases takes_subset htakes hmem with hunread | rfl
    · exact Nat.lt_succ_of_lt (h call id reply hunread)
    · exact Nat.lt_succ_self _
  next => exact Nat.lt_succ_of_lt (h call id reply hmem)

theorem taken_check (s : Process) (file : String) (sent : List Notice) :
    taken s (.check file sent) =
      if s.waiting then none
      else (s.unread ++ sent.map Message.notice).find? (endsWait Message.delivered) := by
  unfold taken takes
  rw [← waitDiagnostics_stop Message.delivered file, Option.map_map]
  cases s.waiting with
  | true => rfl
  | false => simp [Function.comp_def]

/-- **One call** takes its own exactly when it fits. -/
theorem right_iff {s : Process} (hpast : Past s) (c : LspCall) : Right s c ↔ Fits s c := by
  cases c with
  | check file sent =>
      unfold Right Fits
      rw [taken_check]
      cases s.waiting <;> simp
  | query q path line column early between late reply =>
      unfold Right Fits taken takes
      cases s.waiting with
      | true => simp
      | false =>
          have hbefore : Message.response s.next q.id reply ∉
              s.unread ++ early.map Message.notice := by
            intro hmem
            rcases List.mem_append.mp hmem with hunread | hearly
            · exact Nat.lt_irrefl _ (hpast _ _ _ hunread)
            · exact response_not_mem_notices _ _ _ early hearly
          have hbetween := response_not_mem_notices s.next q.id reply between
          simp only [Bool.false_eq_true, if_false, true_and]
          rw [readResponse_iff hbefore hbetween]
          simp

/-- A request returns the content of the response it takes. -/
theorem answer_response (str : Json → String) (q : Query) (path : String) (line column : Int)
    (call : Nat) (reply : Except Json Json) :
    q.answer str path line column (some (Message.response call q.id reply).json) =
      .ok (q.content str path line column reply) := by
  cases reply with
  | error error => rfl
  | ok result => cases q <;> rfl

/-- A check that ends at diagnostics returns them. -/
theorem atEnd_diagnostics (file : String) (call : Nat) (params : Json) :
    atEnd Message.delivered file (some (.notice (.diagnostics call params))) =
      published file (Message.notice (.diagnostics call params)).json := by
  have hkind : kindOf (Message.notice (.diagnostics call params)).json = .ok .diagnostics := rfl
  simp only [atEnd, Message.delivered, hkind]

/-- **One call** that takes its own returns its own. -/
theorem Right.returnsOwn {s : Process} (hpast : Past s) {c : LspCall} (h : Right s c)
    (str : Json → String) : ReturnsOwn str s c := by
  cases c with
  | query q path line column early between late reply =>
      have htaken : taken s (.query q path line column early between late reply) =
          some (.response s.next q.id reply) := h
      show returned str s (.query q path line column early between late reply) = _
      rw [returned, htaken, Option.map_some]
      exact congrArg some (answer_response str q path line column s.next reply)
  | check file sent =>
      rintro r hr
      obtain ⟨m, htaken, rfl⟩ := Option.map_eq_some_iff.mp hr
      have howner : m.owner = some s.next := h m htaken
      -- A response that is read in a check is one to a call made before.
      cases m with
      | response call id reply =>
          rw [taken_check] at htaken
          split at htaken
          next => cases htaken
          next =>
            have hcall : call = s.next := Option.some.inj howner
            rcases List.mem_append.mp (List.mem_of_find?_eq_some htaken) with hunread | hsent
            · exact absurd (hpast _ _ _ hunread) (by omega)
            · exact absurd hsent (response_not_mem_notices _ _ _ sent)
      | notice n =>
          cases n with
          | notification method params other => cases howner
          | diagnostics call params =>
              have hcall : call = s.next := Option.some.inj howner
              subst hcall
              exact ⟨params, by rw [LspCall.returns, atEnd_diagnostics]⟩

/-! ## §4. Runs. -/

theorem past_start : Past {} := by
  intro call id reply hmem
  cases hmem

theorem meets_right_iff {s : Process} (h : Past s) (calls : List LspCall) :
    Meets Process.call Right s calls ↔ Meets Process.call Fits s calls :=
  meets_congr (P := Past) (fun _ c h => h.call c) (fun _ c h => right_iff h c) h

/-- **Every call of a run takes its own** exactly when every call fits what the calls before
it left; and then every call returns its own. -/
theorem correlated_iff (calls : List LspCall) :
    (Correlated calls ↔ Meets Process.call Fits {} calls) ∧
      ∀ str, Correlated calls → Meets Process.call (ReturnsOwn str) {} calls := by
  refine ⟨meets_right_iff past_start calls, fun str hright => ?_⟩
  have hboth : Meets Process.call (fun s c => Right s c ∧ ReturnsOwn str s c) {} calls := by
    refine (meets_congr (P := Past) (fun _ c h => h.call c) (fun s c hpast => ?_) past_start).mp
      hright
    exact ⟨fun h => ⟨h, h.returnsOwn hpast str⟩, And.left⟩
  exact meets_iff.mpr fun pre c post hcalls => (meets_iff.mp hboth pre c post hcalls).2

/-- The server keeps step: one message before each request and nothing else but the
response, and for a check its diagnostics alone. -/
def KeepsStep (n : Nat) : LspCall → Prop
  | .check _ sent => ∃ params, sent = [.diagnostics n params]
  | .query _ _ _ _ early between late _ => early.length = 1 ∧ between = [] ∧ late = []

/-- A call of a server that keeps step leaves nothing unread. -/
theorem call_of_keepsStep {n : Nat} {c : LspCall} (h : KeepsStep n c) :
    Process.call { next := n } c = { next := n + 1 } ∧ Fits { next := n } c := by
  cases c with
  | check file sent =>
      obtain ⟨params, rfl⟩ := h
      refine ⟨rfl, fun _ m hm => ?_⟩
      cases hm
      rfl
  | query q path line column early between late reply =>
      obtain ⟨hone, rfl, rfl⟩ := h
      obtain ⟨first, rfl⟩ := List.length_eq_one_iff.mp hone
      exact ⟨rfl, rfl, rfl, rfl⟩

/-- **With a server that keeps step**, every call of every run takes its own. -/
theorem lockstep_correlated {calls : List LspCall}
    (h : ∀ (i : Nat) c, calls[i]? = some c → KeepsStep i c) : Correlated calls := by
  refine (meets_right_iff past_start calls).mpr ?_
  suffices hfrom : ∀ n, (∀ (i : Nat) c, calls[i]? = some c → KeepsStep (n + i) c) →
      Meets Process.call Fits { next := n } calls by
    exact hfrom 0 fun i c hc => by simpa using h i c hc
  clear h
  induction calls with
  | nil => exact fun _ _ => trivial
  | cons c calls ih =>
      intro n hsteps
      obtain ⟨hnext, hfits⟩ := call_of_keepsStep (hsteps 0 c rfl)
      refine ⟨hfits, ?_⟩
      rw [Nat.add_zero] at hnext
      rw [hnext]
      refine ih (n + 1) fun i c' hc' => ?_
      have hstep := hsteps (i + 1) c' (by simpa using hc')
      rwa [Nat.add_assoc, Nat.add_comm 1 i]

/-- Diagnostics that come twice for one `didOpen`. -/
def twice (call : Nat) : List Notice := [.diagnostics call .null, .diagnostics call .null]

/-- A goal call takes the second of its diagnostics for its response; the check after it
takes the response. -/
theorem not_correlated :
    ¬ Correlated [.query (.goal "plainGoal") "A.lean" 0 0 (twice 0) [] [] (.ok (.arr []))] ∧
      ¬ Correlated [.query (.goal "plainGoal") "A.lean" 0 0 [.diagnostics 0 .null]
          [] [.diagnostics 0 .null] (.ok (.arr [])), .check "/A.lean" [.diagnostics 1 .null]] := by
  constructor
  · rintro ⟨hgoal, -⟩
    cases hgoal
  · rintro ⟨-, hcheck, -⟩
    have howner := hcheck (.notice (.diagnostics 0 .null)) rfl
    cases howner

end Lsp

end ObligationRuntime
