/-
  ObligationRuntime.Runtime.Parties — the three parties of a review: the checkpoints
  of the graph, the review store of the gateway, and the reviewer, linked by nothing
  but the thread id.

  Each party takes its steps when it likes.  A run saves the states its nodes read,
  one by one; its interrupt asks for a review, which may reach the store late or never;
  then it saves its last state.  The reviewer calls the review API.  A resume posts the
  decision it reads, and the post reaches the orchestrator later, or never; the nodes
  it runs there call nothing, and are one step here.

  `held`, `interruptOf`, `approvals` and `finalised` are histories: which create the
  stored review comes from, which interrupt the checkpoint comes from, which reviews
  were approved and which interrupted runs a resume accepted.  No step reads them.

  Main definitions: `Parties`, `Parties.step`.
-/
import ObligationRuntime.Gateway.Reviews
import ObligationRuntime.Runtime.Payload
import ObligationRuntime.Runtime.Threads

namespace ObligationRuntime

open Py Flow Handlers Gateway

/-! ## §1. The state of the parties. -/

/-- A run of the graph on a thread: what it does, whether its interrupt has asked for
the review, and whether it has saved its last state. -/
structure Job where
  threadId : String
  run : Run
  pushed : Bool := false
  done : Bool := false

/-- Which create a stored review comes from: the interrupt of a job, or a call of the
API. -/
inductive Origin where
  | interrupt (job : Nat)
  | api (call : Nat)
  deriving DecidableEq, Repr

/-- A post of a resume on its way, with the origin of the review its decision was
read from. -/
structure InFlight where
  post : ResumePost
  origin : Option Origin

/-- An approval: the thread, and the review that was in the store. -/
structure Approved where
  threadId : String
  origin : Origin
  payload : Dict

/-- A resume that accepted a run awaiting approval: the interrupt the checkpoint came
from, the review the decision came from, and the checkpoint. -/
structure Finalised where
  threadId : String
  job : Option Nat
  decision : Option Origin
  state : State

/-- The parties. -/
structure Parties (S : ReviewStoreProtocol) where
  checkpoints : String → Option State := fun _ => none
  store : S.State
  jobs : List Job := []
  posts : List InFlight := []
  interruptOf : String → Option Nat := fun _ => none
  held : String → Option Origin := fun _ => none
  calls : Nat := 0
  approvals : List Approved := []
  finalised : List Finalised := []

/-- A step of one of the parties.  Jobs and posts are named by their place. -/
inductive PartyAction where
  | start (threadId : String) (request : RunRequest) (deps : Deps)
  | save (job node : Nat)
  | push (job : Nat) (delivered : Bool)
  | commit (job : Nat)
  | api (call : ReviewCall)
  | deliver (post : Nat) (deps : Deps)
  | lose (post : Nat)

/-- The thread of `POST /v1/reviews/{thread_id}/resume`. -/
def resumeRoute (path : String) : Option String :=
  match path.toList.dropPrefix? "/v1/reviews/".toList with
  | some rest =>
      match rest.dropSuffix? "/resume".toList with
      | some segment =>
          if segment = [] ∨ '/' ∈ segment then none else some (String.ofList segment)
      | none => none
  | none => none

namespace Parties

variable {S : ReviewStoreProtocol}

/-- Nothing has happened yet. -/
def initial (S : ReviewStoreProtocol) : Parties S := { store := S.empty }

/-! ## §2. What the steps are made of. -/

section

variable (σ : Parties S)

/-- The thread's checkpoint says that it awaits approval. -/
def Awaiting (t : String) : Prop :=
  (σ.checkpoints t).bind State.status = some .awaitingApproval

instance (t : String) : Decidable (σ.Awaiting t) := by
  unfold Awaiting
  infer_instance

/-- A checkpoint is saved, by the interrupt of a job or not. -/
def saved (t : String) (s : State) (job : Option Nat) : Parties S :=
  { σ with
    checkpoints := Function.update σ.checkpoints t (some s)
    interruptOf := Function.update σ.interruptOf t job }

/-- A save is at its own thread: the checkpoints, -/
theorem saved_checkpoints (t u : String) (s : State) (job : Option Nat) :
    (σ.saved t s job).checkpoints u = if u = t then some s else σ.checkpoints u := by
  simp [saved, Function.update_apply]

/-- and the interrupts. -/
theorem saved_interruptOf (t u : String) (s : State) (job : Option Nat) :
    (σ.saved t s job).interruptOf u = if u = t then job else σ.interruptOf u := by
  simp [saved, Function.update_apply]

/-- The approval that a call records, with the review it finds. -/
def approvedBy : ReviewCall → List Approved
  | .approve t =>
      match S.get σ.store t, σ.held t with
      | some r, some o => [⟨t, o, r.payload⟩]
      | _, _ => []
  | _ => []

/-- A call of the review API reaches the store. -/
def called (origin : Origin) (call : ReviewCall) : Parties S :=
  { σ with
    store := call.step S σ.store
    held := fun t => if (call.creates t).isSome then some origin else σ.held t
    approvals := σ.approvals ++ σ.approvedBy call }

/-- The interrupted run that a resume of the thread accepts, if it does. -/
def finalisedBy (t : String) (decision : Option Origin) (r : Run) : List Finalised :=
  match σ.checkpoints t with
  | some s =>
      if s.status = some .awaitingApproval ∧ r.state.status = some .accepted then
        [⟨t, σ.interruptOf t, decision, s⟩]
      else []
  | none => []

end

/-! ## §3. The steps. -/

/-- A run starts: its input, merged over the checkpoint, is saved first. -/
def start (σ : Parties S) (threadId : String) (request : RunRequest) (deps : Deps) : Parties S :=
  let input := makeInitialState { request with threadId := threadId }
  { σ.saved threadId (startState (σ.checkpoints threadId) input) none with
    jobs := σ.jobs ++ [{ threadId, run := invoke deps (σ.checkpoints threadId) input }] }

/-- A run saves a state that one of its nodes read. -/
def save (σ : Parties S) (i k : Nat) : Parties S :=
  match σ.jobs[i]? with
  | none => σ
  | some job =>
      if job.done then σ
      else
        match job.run.visited[k]? with
        | none => σ
        | some node => σ.saved job.threadId node.2 none

/-- The interrupt asks for its review: the request reaches the store, or it does not and
the interrupt goes on all the same. -/
def push (σ : Parties S) (i : Nat) (delivered : Bool) : Parties S :=
  match σ.jobs[i]? with
  | none => σ
  | some job =>
      if job.pushed then σ
      else
        let σ' := { σ with jobs := σ.jobs.set i { job with pushed := true } }
        match delivered, pushedBody job.run with
        | true, some body => σ'.called (.interrupt i) (.create (.obj body))
        | _, _ => σ'

/-- A run saves its last state. -/
def commit (σ : Parties S) (i : Nat) : Parties S :=
  match σ.jobs[i]? with
  | none => σ
  | some job =>
      if job.done then σ
      else
        let σ' := { σ with jobs := σ.jobs.set i { job with done := true } }
        σ'.saved job.threadId job.run.state
          (if job.run.state.status = some .awaitingApproval then some i else none)

/-- A call of the review API; what a resume posts is on its way. -/
def api (env : ReviewEnv) (σ : Parties S) (call : ReviewCall) : Parties S :=
  { σ.called (.api σ.calls) call with
    calls := σ.calls + 1
    posts := σ.posts ++ (call.posts env S σ.store).map fun p => ⟨p, σ.held p.threadId⟩ }

/-- A post reaches the resume endpoint of the orchestrator. -/
def deliver (http : String → Option String) (σ : Parties S) (k : Nat) (deps : Deps) : Parties S :=
  match σ.posts[k]? with
  | none => σ
  | some p =>
      let σ' := { σ with posts := σ.posts.eraseIdx k }
      match (http p.post.path).bind resumeRoute with
      | none => σ'
      | some t =>
          match resumeEndpoint deps (σ.checkpoints t) t p.post.decision.text with
          | .error _ => σ'
          | .ok r => { σ'.saved t r.state none with
              finalised := σ.finalised ++ σ.finalisedBy t p.origin r }

/-- One step. -/
def step (env : ReviewEnv) (http : String → Option String) (σ : Parties S) :
    PartyAction → Parties S
  | .start threadId request deps => σ.start threadId request deps
  | .save i k => σ.save i k
  | .push i delivered => σ.push i delivered
  | .commit i => σ.commit i
  | .api call => api env σ call
  | .deliver k deps => deliver http σ k deps
  | .lose k => { σ with posts := σ.posts.eraseIdx k }

end Parties

end ObligationRuntime
