/-
  ObligationRuntime.Guarantees.InteractiveCheck — what an interactive check that comes out
  fine says about the file.

  It should say that the server published diagnostics of the file, and no error among
  them.  The reading loop ends at the first read that is a response, diagnostics of any
  file, nothing at all, or an exception, and else at the deadline; all but the exception
  lead to the same answer, on the diagnostics found so far.

  Main results:
    * `heard_kind` — before the read at which the loop ends, no diagnostics are heard,
    * `failClosed_iff` — when the check's answer says so.
-/
import ObligationRuntime.Gateway.LspClient

namespace ObligationRuntime

open Py

namespace Lsp

/-! ## §1. The property. -/

/-- The messages that the loop reads. -/
def heard : List Delivery → List Json
  | .ok (some msg) :: reads => msg :: if kindOf msg = .ok .other then heard reads else []
  | _ => []

/-- The file that a message names. -/
def namedUri (msg : Json) : Option Json :=
  ((msg.dict?.bind fun d => Dict.get? d "params").bind Json.dict?).bind fun d => Dict.get? d "uri"

/-- The message is a `publishDiagnostics` notification for this file. -/
def PublishesFor (uri : String) (msg : Json) : Prop :=
  kindOf msg = .ok .diagnostics ∧ namedUri msg = some (.str uri)

instance (uri : String) (msg : Json) : Decidable (PublishesFor uri msg) :=
  inferInstanceAs (Decidable (_ ∧ _))

/-- **The check is fail-closed**: what it returns rests on diagnostics that the server
published for the file while it ran. -/
structure FailClosed (opened : Except PyError Bool) (uri file : String) (reads : List Delivery) :
    Prop where
  /-- It is fine only if they were published, without an error. -/
  ok : ∀ diagnostics goals, runCheck opened file reads = .ok (diagnostics, goals, true) →
    ∃ msg ∈ heard reads, PublishesFor uri msg ∧
      ∃ ds, published file msg = .ok ds ∧ noError ds = true
  /-- What it lists are diagnostics of the file. -/
  listed : ∀ diagnostics goals ok, runCheck opened file reads = .ok (diagnostics, goals, ok) →
    ∀ d ∈ diagnostics, ∃ msg ∈ heard reads, PublishesFor uri msg ∧
      ∃ ds, published file msg = .ok ds ∧ d ∈ ds

/-- The call raises on this read: it is an exception, or a message that is no mapping, or
diagnostics that cannot be listed. -/
def Raises (file : String) : Delivery → Prop
  | .error _ => True
  | .ok none => False
  | .ok (some msg) =>
      (kindOf msg).toOption = none ∨
        kindOf msg = .ok .diagnostics ∧ (published file msg).toOption = none

/-- **The read at which the loop ends is the right one**: the diagnostics of this file, or
one on which the call raises. -/
def EndsWell (uri file : String) (read : Option Delivery) : Prop :=
  ∃ d, read = some d ∧ (Raises file d ∨ ∃ msg, d = .ok (some msg) ∧ PublishesFor uri msg)

/-! ## §2. The loop. -/

section

variable {uri file : String} {reads : List Delivery}

/-- **What is heard**: messages of no account, and the one at which the loop ends. -/
theorem heard_kind {msg : Json} (h : msg ∈ heard reads) :
    kindOf msg = .ok .other ∨ reads.find? (endsWait id) = some (.ok (some msg)) := by
  induction reads with
  | nil => cases h
  | cons read reads ih =>
      match read with
      | .error e => cases h
      | .ok none => cases h
      | .ok (some first) =>
          by_cases hother : kindOf first = .ok .other
          · have hpass : ¬ endsWait id (Except.ok (some first) : Delivery) = true := by
              rw [endsWait_iff id rfl, not_not]
              exact hother
            rw [List.find?_cons_of_neg hpass]
            rw [heard, if_pos hother] at h
            rcases List.mem_cons.mp h with rfl | hrest
            · exact .inl hother
            · exact ih hrest
          · rw [heard, if_neg hother, List.mem_singleton] at h
            have hends : endsWait id (Except.ok (some first) : Delivery) = true :=
              (endsWait_iff id rfl).mpr hother
            right
            rw [h, List.find?_cons_of_pos hends]

/-- The message at which the loop ends is heard. -/
theorem heard_end {msg : Json} (h : reads.find? (endsWait id) = some (.ok (some msg))) :
    msg ∈ heard reads := by
  induction reads with
  | nil => cases h
  | cons read reads ih =>
      by_cases hends : endsWait id read = true
      · rw [List.find?_cons_of_pos hends] at h
        cases h
        exact List.mem_cons_self ..
      · rw [List.find?_cons_of_neg hends] at h
        match read with
        | .error e => exact absurd rfl hends
        | .ok none => exact absurd rfl hends
        | .ok (some first) =>
            have hother : kindOf first = .ok .other := by
              rwa [endsWait_iff id rfl, not_not] at hends
            rw [heard, if_pos hother]
            exact List.mem_cons_of_mem _ (ih h)

/-- Diagnostics of the file that are heard end the loop. -/
theorem publishesFor_end {msg : Json} (h : msg ∈ heard reads) (hpub : PublishesFor uri msg) :
    reads.find? (endsWait id) = some (.ok (some msg)) := by
  rcases heard_kind h with hother | hend
  · rw [hpub.1] at hother
    cases hother
  · exact hend

theorem runCheck_opened :
    runCheck (.ok true) file reads =
      (atEnd id file (reads.find? (endsWait id))).map fun ds => (ds, [], noError ds) := by
  rw [← waitDiagnostics_answer]
  show ((waitDiagnostics id file reads).1 >>= fun ds => pure (ds, [], noError ds)) = _
  cases (waitDiagnostics id file reads).1 <;> rfl

theorem raises_iff {d : Delivery} :
    Raises file d ↔ (atEnd id file (some d)).toOption = none := by
  match d with
  | .error e => exact iff_of_true trivial rfl
  | .ok none => exact iff_of_false id (by simp [atEnd, Except.toOption])
  | .ok (some msg) =>
      unfold Raises atEnd
      cases hkind : kindOf msg with
      | error e => simp [hkind, Except.toOption]
      | ok kind => cases kind <;> simp [hkind, Except.toOption]

/-- **A loop that ends elsewhere** leaves a list that says nothing about the file. -/
theorem not_failClosed (ds : List Dict) (hds : atEnd id file (reads.find? (endsWait id)) = .ok ds)
    (hnot : ∀ msg, reads.find? (endsWait id) = some (.ok (some msg)) → ¬ PublishesFor uri msg) :
    ¬ FailClosed (.ok true) uri file reads := by
  intro h
  have hrun : runCheck (.ok true) file reads = .ok (ds, [], noError ds) := by
    rw [runCheck_opened, hds]
    rfl
  have hnone : ¬ ∃ msg ∈ heard reads, PublishesFor uri msg := by
    rintro ⟨msg, hmsg, hpub⟩
    exact hnot msg (publishesFor_end hmsg hpub) hpub
  -- An empty list makes the check fine; any other lists something of another file.
  cases ds with
  | nil =>
      obtain ⟨msg, hmsg, hpub, -⟩ := h.ok [] [] hrun
      exact hnone ⟨msg, hmsg, hpub⟩
  | cons d ds =>
      obtain ⟨msg, hmsg, hpub, -⟩ := h.listed _ _ _ hrun d (List.mem_cons_self ..)
      exact hnone ⟨msg, hmsg, hpub⟩

/-- What a loop that ends elsewhere leaves. -/
theorem atEnd_of_not_endsWell {read : Option Delivery} (h : ¬ EndsWell uri file read) :
    ∃ ds, atEnd id file read = .ok ds ∧
      ∀ msg, read = some (.ok (some msg)) → ¬ PublishesFor uri msg := by
  have hnot : ∀ msg, read = some (.ok (some msg)) → ¬ PublishesFor uri msg :=
    fun msg hread hfor => h ⟨_, hread, .inr ⟨msg, rfl, hfor⟩⟩
  cases hat : atEnd id file read with
  | ok ds => exact ⟨ds, rfl, hnot⟩
  | error e =>
      cases read with
      | none => cases hat
      | some d => exact absurd ⟨d, rfl, .inl (raises_iff.mpr (by rw [hat]; rfl))⟩ h

/-- The diagnostics that a loop which ends well leaves are published for the file. -/
theorem publishesFor_of_endsWell {ds : List Dict}
    (h : EndsWell uri file (reads.find? (endsWait id)))
    (hds : atEnd id file (reads.find? (endsWait id)) = .ok ds) :
    ∃ msg ∈ heard reads, PublishesFor uri msg ∧ published file msg = .ok ds := by
  obtain ⟨d, hread, hraises | ⟨msg, rfl, hfor⟩⟩ := h
  · rw [raises_iff, ← hread, hds] at hraises
    cases hraises
  · have hpub : published file msg = .ok ds := by
      rw [hread] at hds
      simpa [atEnd, hfor.1] using hds
    exact ⟨msg, heard_end hread, hfor, hpub⟩

end

/-! ## §3. When the check is fail-closed. -/

/-- **The check is fail-closed** exactly when nothing was opened, or the read at which its
loop ends is the right one. -/
theorem failClosed_iff (opened : Except PyError Bool) (uri file : String)
    (reads : List Delivery) :
    FailClosed opened uri file reads ↔
      opened ≠ .ok true ∨ EndsWell uri file (reads.find? (endsWait id)) := by
  constructor
  · intro h
    by_contra hbad
    rw [not_or, not_not] at hbad
    obtain ⟨rfl, hends⟩ := hbad
    -- The loop ends at a read that is not the right one: what it lists is refuted.
    obtain ⟨ds, hds, hnot⟩ := atEnd_of_not_endsWell hends
    exact not_failClosed ds hds hnot h
  · rintro (hclosed | hends)
    · match opened with
      | .error e =>
          refine ⟨fun _ _ hrun => ?_, fun _ _ _ hrun => ?_⟩
          · cases hrun
          · cases hrun
      | .ok true => exact absurd rfl hclosed
      | .ok false =>
          refine ⟨fun _ _ hrun => ?_, fun _ _ _ hrun d hd => ?_⟩
          · cases hrun
          · cases hrun
            cases hd
    · -- What is listed comes from a message about the file, or nothing is.
      have hlisted : ∀ ds goals ok, runCheck opened file reads = .ok (ds, goals, ok) → ds = [] ∧
          ok = false ∨ ok = noError ds ∧ ∃ msg ∈ heard reads, PublishesFor uri msg ∧
            published file msg = .ok ds := by
        intro ds goals ok hrun
        match opened with
        | .error e => cases hrun
        | .ok false => cases hrun; exact .inl ⟨rfl, rfl⟩
        | .ok true =>
            rw [runCheck_opened] at hrun
            cases hat : atEnd id file (reads.find? (endsWait id)) with
            | error e => rw [hat] at hrun; cases hrun
            | ok ds' =>
                rw [hat] at hrun
                cases hrun
                exact .inr ⟨rfl, publishesFor_of_endsWell hends hat⟩
      constructor
      · intro ds goals hrun
        rcases hlisted ds goals true hrun with ⟨-, hfalse⟩ | ⟨hok, msg, hmsg, hfor, hpub⟩
        · cases hfalse
        · exact ⟨msg, hmsg, hfor, ds, hpub, hok.symm⟩
      · intro ds goals ok hrun d hd
        rcases hlisted ds goals ok hrun with ⟨rfl, -⟩ | ⟨-, msg, hmsg, hfor, hpub⟩
        · cases hd
        · exact ⟨msg, hmsg, hfor, ds, hpub, hd⟩

/-- A response, and diagnostics of a file. -/
def resultMessage (id : Int) : Json := .obj [("id", .int id), ("result", .null)]

/-- A `publishDiagnostics` notification of errors at the start of a file. -/
def publishMessage (uri : String) (errors : List String) : Json :=
  .obj [("method", .str publishMethod),
    ("params", .obj [("uri", .str uri), ("diagnostics", .arr (errors.map fun e =>
      .obj [("severity", .int 1), ("message", .str e)]))])]

/-- The check is fine after a stream that ends, after the response of an earlier request,
and after the diagnostics of another file; the file's own error comes next. -/
theorem check_fails_open :
    ¬ FailClosed (.ok true) "file:///a" "/a" [.ok none] ∧
      ¬ FailClosed (.ok true) "file:///a" "/a"
        [.ok (some (resultMessage 2)), .ok (some (publishMessage "file:///a" ["unsolved goals"]))] ∧
      ¬ FailClosed (.ok true) "file:///a" "/a"
        [.ok (some (publishMessage "file:///b" [])),
          .ok (some (publishMessage "file:///a" ["unsolved goals"]))] := by
  refine ⟨not_failClosed [] rfl ?_, not_failClosed [] rfl ?_,
    not_failClosed [] rfl ?_⟩
  · intro msg hend
    cases hend
  · intro msg hend hfor
    cases hend
    exact absurd hfor (by decide)
  · intro msg hend hfor
    cases hend
    exact absurd hfor (by decide)

end Lsp

end ObligationRuntime
