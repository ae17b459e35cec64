/-
  ObligationRuntime.Gateway.LspClient — the language server client, message by message:
  lsp_client.py.

  The four calls open the file and then read messages of the server.  `run_check` reads
  until one ends the wait; the others read one message, send their request, and take the
  next message for the response.

  A read comes to a message, to nothing, or to an exception.  The messages are of any
  type `M`, so that a model of the server can tell apart what the client cannot.

  How the language writes a value as text is the parameter `str`.
-/
import ObligationRuntime.Lib.Text
import ObligationRuntime.Lib.Value

namespace ObligationRuntime

open Py

namespace Lsp

/-! ## §1. Messages. -/

/-- What a `_read` comes to. -/
abbrev Delivery := Except PyError (Option Json)

/-- `"textDocument/publishDiagnostics"`. -/
def publishMethod : String := "textDocument/publishDiagnostics"

/-- `key in v`. -/
def pyIn (key : String) : Json → Except PyError Bool
  | .obj d => .ok (Dict.get? d key).isSome
  | .arr xs => .ok (xs.any fun x => x.pyEq (.str key))
  | .str s => .ok (contains key s)
  | _ => .error (.typeError "argument is not iterable")

/-- `v + 1`. -/
def plusOne : Json → Except PyError Json
  | .int n => .ok (.int (n + 1))
  | .bool b => .ok (.int (if b then 2 else 1))
  | .flt q => .ok (.flt (q + 1))
  | _ => .error (.typeError "unsupported operand type(s) for +")

/-- What a message is to `run_check`. -/
inductive Kind where
  | diagnostics
  | response
  | other
  deriving DecidableEq, Repr

/-- The tests of the loop on a message. -/
def kindOf (msg : Json) : Except PyError Kind := do
  let method ← msg.pyGet "method"
  -- Neither the file of the diagnostics nor the id of the response is looked at.
  if method.pyEq (.str publishMethod) then return .diagnostics
  else if (← pyIn "id" msg) && (← pyIn "result" msg) then return .response
  else return .other

/-! ## §2. `run_check`. -/

/-- A diagnostic of the server, as the client lists it. -/
def diagnosticOf (file : String) (d : Json) : Except PyError Dict := do
  let r ← d.pyGetD "range" (.obj [])
  let start ← r.pyGetD "start" (.obj [])
  let stop ← r.pyGet "end"
  let endLine ← if stop.truthy then stop.pyGetD "line" (.int 0) >>= plusOne else pure .null
  let endColumn ← if stop.truthy then stop.pyGetD "character" (.int 0) else pure .null
  -- Without a severity it is an error.
  let severity ← d.pyGetD "severity" (.int 1)
  let line ← start.pyGetD "line" (.int 0) >>= plusOne
  let column ← start.pyGetD "character" (.int 0)
  let message ← d.pyGetD "message" (.str "")
  return [("severity", severity), ("file", .str file), ("line", line), ("column", column),
    ("end_line", endLine), ("end_column", endColumn), ("message", message),
    ("source", .str "lean")]

/-- The diagnostics of a `publishDiagnostics` message. -/
def published (file : String) (msg : Json) : Except PyError (List Dict) := do
  let params := (← msg.pyGet "params").orElse (.obj [])
  let diagnostics ← params.pyGetD "diagnostics" (.arr [])
  (← diagnostics.pyIter).mapM (diagnosticOf file)

section

variable {M : Type} (body : M → Delivery)

/-- The reading loop, on what is read until the deadline: the diagnostics, the read at which
it stops, and what is left unread. -/
def waitDiagnostics (file : String) : List M → Except PyError (List Dict) × Option M × List M
  | [] => (.ok [], none, [])
  | m :: ms =>
      match body m with
      | .error e => (.error e, some m, ms)
      -- The end of the stream, or a line that is no header.
      | .ok none => (.ok [], some m, ms)
      | .ok (some msg) =>
          match kindOf msg with
          | .error e => (.error e, some m, ms)
          | .ok .diagnostics => (published file msg, some m, ms)
          | .ok .response => (.ok [], some m, ms)
          | .ok .other => waitDiagnostics file ms

/-- The loop stops at this read. -/
def endsWait (m : M) : Bool :=
  match body m with
  | .ok (some msg) =>
      match kindOf msg with
      | .ok .other => false
      | _ => true
  | _ => true

/-- What the read at which the loop stops makes of the diagnostics. -/
def atEnd (file : String) : Option M → Except PyError (List Dict)
  | none => .ok []
  | some m =>
      match body m with
      | .error e => .error e
      | .ok none => .ok []
      | .ok (some msg) =>
          match kindOf msg with
          | .error e => .error e
          | .ok .diagnostics => published file msg
          | .ok _ => .ok []

/-- A message stops the loop unless it is of no account. -/
theorem endsWait_iff {m : M} {msg : Json} (h : body m = .ok (some msg)) :
    endsWait body m = true ↔ kindOf msg ≠ .ok .other := by
  unfold endsWait
  rw [h]
  cases hkind : kindOf msg with
  | error e => simp [hkind]
  | ok kind => cases kind <;> simp [hkind]

/-- The loop stops at the first read that ends it. -/
theorem waitDiagnostics_stop (file : String) (ms : List M) :
    (waitDiagnostics body file ms).2.1 = ms.find? (endsWait body) := by
  induction ms with
  | nil => rfl
  | cons m ms ih =>
      unfold waitDiagnostics
      cases hbody : body m with
      | error e => simp [endsWait, hbody]
      | ok read =>
          cases read with
          | none => simp [endsWait, hbody]
          | some msg =>
              cases hkind : kindOf msg with
              | error e => simp [endsWait, hbody, hkind]
              | ok kind => cases kind <;> simp [endsWait, hbody, hkind, ih]

/-- **The diagnostics** are what that read makes of them. -/
theorem waitDiagnostics_answer (file : String) (ms : List M) :
    (waitDiagnostics body file ms).1 = atEnd body file (ms.find? (endsWait body)) := by
  induction ms with
  | nil => rfl
  | cons m ms ih =>
      unfold waitDiagnostics
      cases hbody : body m with
      | error e => simp [endsWait, atEnd, hbody]
      | ok read =>
          cases read with
          | none => simp [endsWait, atEnd, hbody]
          | some msg =>
              cases hkind : kindOf msg with
              | error e => simp [endsWait, atEnd, hbody, hkind]
              | ok kind => cases kind <;> simp [endsWait, atEnd, hbody, hkind, ih]

end

/-- `not any(d.get("severity") == 1 for d in diagnostics)`. -/
def noError (diagnostics : List Dict) : Bool :=
  !diagnostics.any fun d => (d.getD "severity" .null).pyEq (.int 1)

/-- `run_check`: `opened` is whether there is a server and a file. -/
def runCheck (opened : Except PyError Bool) (file : String) (reads : List Delivery) :
    Except PyError (List Dict × List Dict × Bool) := do
  if ← opened then
    let diagnostics ← (waitDiagnostics id file reads).1
    -- Whatever ended the loop, only the list is asked.
    return (diagnostics, [], noError diagnostics)
  else return ([], [], false)

/-! ## §3. Goal, hover and definition. -/

/-- A request at a position. -/
inductive Query where
  | goal (kind : String)
  | hover
  | definition
  deriving DecidableEq, Repr

/-- The request's id. -/
def Query.id : Query → Int
  | .goal _ => 2
  | .hover => 3
  | .definition => 4

section

variable (str : Json → String)

/-- `v[key]`, where the mapping has the key. -/
def subscript (v : Json) (key : String) : Except PyError Json :=
  match v with
  | .obj d => .ok (Dict.getD d key .null)
  | _ => .error (.typeError "indices must be integers")

/-- The result, where there is a response with one: `run_get_goal` reads it by `.get`. -/
def Query.resultOf (q : Query) (resp : Option Json) : Except PyError (Option Json) :=
  match resp with
  | none => .ok none
  | some resp => do
      if !resp.truthy then return none
      if ← pyIn "result" resp then
        match q with
        | .goal _ => some <$> resp.pyGet "result"
        | _ => some <$> subscript resp "result"
      else return none

/-- What `run_get_goal` makes of the result. -/
def goalsOf (kind filePath : String) (line column : Int) : Json → List Json
  | .arr goals => goals.map fun g =>
      match g with
      | .obj d => .obj d
      | g => .obj [("text", .str (str g))]
  | .obj d =>
      [.obj [("kind", .str kind), ("text", Dict.getD d "text" (.str (str (.obj d)))),
        ("file", .str filePath), ("line", .int line), ("column", .int column)]]
  | _ => []

/-- What `run_hover` makes of it. -/
def contentsOf : Json → Json
  | .null => .str ""
  | .obj d =>
      match Dict.get? d "contents" with
      | some (.obj c) => Dict.getD c "value" (.obj c)
      | some c => .str (str c)
      | none => .str (str (.obj d))
  | result => .str (str result)

/-- What `run_definition` makes of it. -/
def locationsOf : Json → List Json
  | .arr results => results.filter fun r => r.dict?.isSome
  | .obj d => [.obj d]
  | _ => []

/-- What the call returns without a result. -/
def Query.empty : Query → Json
  | .goal _ => .arr []
  | .hover => .str ""
  | .definition => .arr []

/-- What the call makes of the result. -/
def Query.made (q : Query) (filePath : String) (line column : Int) (result : Json) : Json :=
  match q with
  | .goal kind => .arr (goalsOf str kind filePath line column result)
  | .hover => contentsOf str result
  | .definition => .arr (locationsOf result)

/-- What the call returns on a response. -/
def Query.answer (q : Query) (filePath : String) (line column : Int) (resp : Option Json) :
    Except PyError Json := do
  match ← q.resultOf resp with
  | none => return q.empty
  | some result => return q.made str filePath line column result

end

section

variable {M : Type}

/-- The two reads of `run_get_goal`, `run_hover` and `run_definition`: one of what comes
before the request, whatever it is, and one after it.  The second is the response, for the
call; without a message the first read waits. -/
def readResponse (before after : List M) : Option (M × List M) :=
  match before with
  | [] => none
  -- The first message is dropped unseen.
  | _ :: unread =>
      match unread ++ after with
      | [] => none
      | m :: rest => some (m, rest)

/-- **The call takes the response of its own request** exactly when one message comes before
the request, and none between it and the response. -/
theorem readResponse_iff {before early late : List M} {response : M} (hb : response ∉ before)
    (he : response ∉ early) :
    (readResponse before (early ++ response :: late)).map Prod.fst = some response ↔
      before.length = 1 ∧ early = [] := by
  constructor
  · intro h
    cases before with
    | nil => cases h
    | cons first unread =>
        cases unread with
        | nil =>
            cases early with
            | nil => exact ⟨rfl, rfl⟩
            | cons m early =>
                have hm : m = response := Option.some.inj h
                exact absurd (List.mem_cons_self ..) (hm ▸ he)
        | cons m unread =>
            have hm : m = response := Option.some.inj h
            exact absurd (List.mem_cons_of_mem _ (List.mem_cons_self ..)) (hm ▸ hb)
  · rintro ⟨hone, rfl⟩
    obtain ⟨first, rfl⟩ := List.length_eq_one_iff.mp hone
    rfl

end

end Lsp

end ObligationRuntime
