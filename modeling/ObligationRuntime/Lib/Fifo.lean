/-
  ObligationRuntime.Lib.Fifo — named queues, first in, first out.

  The specification keeps a list for each name.  A system implements it when its states
  have such lists (`view`), and each of its calls answers as the specification does and
  changes the lists as the specification does.  Calls come from any number of clients, in
  any order.

  Main results:
    * `System.conservation` — what was in a queue and what was put in is what was handed out
      and what is left, in order,
    * `System.taken_none` — a client is told that a queue is empty exactly when all that was
      put in has been handed out.
-/
import ObligationRuntime.Lib.Transition
import Mathlib.Logic.Function.Basic
import Mathlib.Data.List.Forall2

namespace Fifo

variable {K A C : Type}

/-! ## §1. The specification. -/

/-- A call. -/
inductive Op (K A : Type) where
  | put (q : K) (a : A)
  | take (q : K)
  | size (q : K)
  deriving DecidableEq, Repr

/-- What a call answers. -/
inductive Answer (A : Type) where
  | done
  | taken (a : Option A)
  | length (n : Nat)
  deriving DecidableEq, Repr

section

variable [DecidableEq K]

/-- The call of the specification. -/
def spec (s : K → List A) : Op K A → (K → List A) × Answer A
  | .put q a => (Function.update s q (s q ++ [a]), .done)
  | .take q => (Function.update s q (s q).tail, .taken (s q).head?)
  | .size q => (s, .length (s q).length)

/-- What a call puts into a queue. -/
def Op.sent (q : K) : Op K A → List A
  | .put q' a => if q' = q then [a] else []
  | .take _ => []
  | .size _ => []

/-- What an answer hands out of a queue. -/
def Op.handed (q : K) : Op K A → Answer A → List A
  | .take q', .taken a => if q' = q then a.toList else []
  | _, _ => []

/-- What the calls put into a queue, in order. -/
def sent (q : K) (calls : List (C × Op K A)) : List A := calls.flatMap fun c => c.2.sent q

/-- **One call of the specification**: nothing is lost, and the order is kept. -/
theorem spec_conserves (s : K → List A) (op : Op K A) (q : K) :
    s q ++ op.sent q = op.handed q (spec s op).2 ++ (spec s op).1 q := by
  cases op with
  | put q' a =>
      by_cases hq : q' = q
      · subst hq
        simp [spec, Op.sent, Op.handed]
      · have hne : q ≠ q' := fun e => hq e.symm
        simp [spec, Op.sent, Op.handed, hq, hne]
  | take q' =>
      by_cases hq : q' = q
      · subst hq
        cases hs : s q' <;> simp [spec, Op.sent, Op.handed, hs]
      · have hne : q ≠ q' := fun e => hq e.symm
        simp [spec, Op.sent, Op.handed, hq, hne]
  | size q' => simp [spec, Op.sent, Op.handed]

/-! ## §2. Systems. -/

variable (K A) in
/-- A system that implements the queues. -/
structure System where
  State : Type
  call : State → Op K A → State × Answer A
  view : State → K → List A
  view_call : ∀ s op, view (call s op).1 = (spec (view s) op).1
  answer_call : ∀ s op, (call s op).2 = (spec (view s) op).2

namespace System

variable (S : System K A)

/-- A call of some client. -/
def callOf (s : S.State) (c : C × Op K A) : S.State × Answer A := S.call s c.2

/-- The state after the calls of the clients. -/
def run (s : S.State) (calls : List (C × Op K A)) : S.State :=
  Transition.run (fun s c => (S.callOf s c).1) s calls

/-- What is handed out of a queue, each time with the client that gets it. -/
def handed (q : K) (s : S.State) : List (C × Op K A) → List (C × A)
  | [] => []
  | c :: calls =>
      (c.2.handed q (S.callOf s c).2).map (Prod.mk c.1) ++ handed q (S.callOf s c).1 calls

variable {S}

/-- **One call of a system** keeps what the specification keeps. -/
theorem call_conserves (s : S.State) (op : Op K A) (q : K) :
    S.view s q ++ op.sent q = op.handed q (S.call s op).2 ++ S.view (S.call s op).1 q := by
  rw [S.view_call, S.answer_call]
  exact spec_conserves (S.view s) op q

/-- **Conservation**: what was in the queue and what was put in is what was handed out,
and then what is left, in order. -/
theorem conservation (s : S.State) (calls : List (C × Op K A)) (q : K) :
    S.view s q ++ sent q calls =
      (S.handed q s calls).map Prod.snd ++ S.view (S.run s calls) q := by
  induction calls generalizing s with
  | nil => simp [sent, handed, run]
  | cons c calls ih =>
      have hstep := call_conserves s c.2 q
      have hrest := ih (S.callOf s c).1
      calc S.view s q ++ sent q (c :: calls)
          = (S.view s q ++ c.2.sent q) ++ sent q calls := by simp [sent]
        _ = c.2.handed q (S.callOf s c).2 ++ (S.view (S.callOf s c).1 q ++ sent q calls) := by
            rw [hstep, List.append_assoc]
            rfl
        _ = (S.handed q s (c :: calls)).map Prod.snd ++ S.view (S.run s (c :: calls)) q := by
            rw [hrest]
            simp [handed, run, Function.comp_def]

/-- **A queue is told to be empty** exactly when all that was put in has been handed out. -/
theorem taken_none {s : S.State} (hs : ∀ q, S.view s q = []) (calls : List (C × Op K A)) (q : K) :
    (S.call (S.run s calls) (.take q)).2 = .taken none ↔
      (S.handed q s calls).map Prod.snd = sent q calls := by
  have hall := conservation s calls q
  rw [hs, List.nil_append] at hall
  rw [S.answer_call, hall]
  simp [spec]

end System

end

end Fifo
