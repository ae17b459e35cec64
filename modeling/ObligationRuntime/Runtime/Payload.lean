/-
  ObligationRuntime.Runtime.Payload — the payload an interrupt pushes, as it is read.

  The interrupt writes a mapping from the state; the schema of the payload reads it
  back before it is pushed.  What is said here holds of every interrupt that pushes a
  payload at all, whatever the state's evidence is.

  Main results:
    * `interrupt_pushes` — a pushed payload is one that was validated,
    * `pushed_patch` — it names the state's thread and shows its patch,
    * `pushedBody_spec` — so does whatever a fresh run has pushed.
-/
import ObligationRuntime.Runtime.Ends

namespace ObligationRuntime

open Py Flow Handlers

section

variable {deps : Deps} {t : State}

/-- An interrupt pushes what it built, once validated. -/
theorem interrupt_pushes {body : Dict}
    (h : (interruptForApproval deps t).calls = [.createPendingReview body]) :
    ∃ summary p, ReviewPayload.validate deps.now (.obj (reviewPayload t summary ++ policyAudit t)) =
      .ok p ∧ body = p.dump := by
  unfold interruptForApproval at h
  cases hs : patchSummary deps t with
  | error err => simp [hs] at h
  | ok summary =>
      refine ⟨summary, ?_⟩
      simp only [hs, Eff.lift_ok_bind] at h
      -- A payload that is not valid is dropped without a call.
      cases hv : ReviewPayload.validate deps.now
          (.obj (reviewPayload t summary ++ policyAudit t)) with
      | error err =>
          have hp : pushReview deps (reviewPayload t summary ++ policyAudit t) = ⟨[], .ok ()⟩ := by
            rw [pushReview, hv]
            rfl
          simp [hp] at h
      | ok p =>
          have hp : pushReview deps (reviewPayload t summary ++ policyAudit t) =
              ⟨[.createPendingReview p.dump], .ok ()⟩ := by
            rw [pushReview, hv]
          simp only [hp, Eff.mk_ok_bind, Eff.pure_calls, List.append_nil, List.cons.injEq,
            GatewayCall.createPendingReview.injEq, and_true] at h
          exact ⟨p, rfl, h.symm⟩

/-- **An interrupt that answers** has pushed what it built, where that is valid. -/
theorem interrupt_creates {u : Update} (h : (interruptForApproval deps t).result = .ok u) :
    ∃ summary, patchSummary deps t = .ok summary ∧
      ∀ p, ReviewPayload.validate deps.now (.obj (reviewPayload t summary ++ policyAudit t)) =
          .ok p →
        .createPendingReview p.dump ∈ (interruptForApproval deps t).calls := by
  unfold interruptForApproval at h ⊢
  cases hs : patchSummary deps t with
  | error err => simp [hs] at h
  | ok summary =>
      refine ⟨summary, rfl, fun p hp => ?_⟩
      have hpush : pushReview deps (reviewPayload t summary ++ policyAudit t) =
          ⟨[.createPendingReview p.dump], .ok ()⟩ := by
        rw [pushReview, hp]
      simp [hpush]

/-- The lists of the obligation summary: `None` is the empty one. -/
theorem noneToList_optStrings (xs : Option (List String)) :
    strList.validate (ReviewObligationSummary.noneToList (optStrings xs)) = .ok (xs.getD []) := by
  cases xs with
  | none => rfl
  | some xs => exact strList.validate_dump xs

/-- An optional string is dumped as it was read. -/
theorem optStr_dump_of_validate {v : Json} {s : Option String} (h : optStr.validate v = .ok s) :
    optStr.dump s = v := by
  cases v with
  | null => exact congrArg optStr.dump (Except.ok.inj h).symm
  | str text => exact congrArg optStr.dump (Except.ok.inj h).symm
  | bool b => cases h
  | int n => cases h
  | flt q => cases h
  | arr xs => cases h
  | obj d => cases h

/-- The obligation summary that is read from what the interrupt wrote. -/
theorem obligationSummary_read (obligation : Dict) (files declarations : Option (List String)) :
    ReviewObligationSummary.validate (.obj
      [("obligation", .obj obligation), ("target_files", optStrings files),
        ("target_declarations", optStrings declarations)]) =
      .ok ⟨obligation, files.getD [], declarations.getD []⟩ := by
  simp [ReviewObligationSummary.validate, opt, Dict.getD, noneToList_optStrings]

/-- The patch that is read from what the interrupt wrote. -/
theorem patchMetadata_read {patch : Option Patch} {summary : PatchSummary}
    {m : ReviewPatchMetadata}
    (h : ReviewPatchMetadata.validate (.obj
      [("current_patch", match patch with
          | some p => .obj p.dump
          | none => .null),
        ("protected_paths_touched", strList.dump summary.protectedPathsTouched),
        ("imports_changed", .bool summary.importsChanged),
        ("changed_files", strList.dump summary.changedFiles),
        ("diff_hash", .str summary.diffHash)]) = .ok m) :
    m.currentPatch = patch.getD [] := by
  simp only [ReviewPatchMetadata.validate, asDict_obj, ok_bind] at h
  obtain ⟨currentPatch, hp, h⟩ := bind_eq_ok_iff.mp h
  obtain ⟨imports, -, h⟩ := bind_eq_ok_iff.mp h
  obtain ⟨changed, -, h⟩ := bind_eq_ok_iff.mp h
  obtain ⟨diff, -, h⟩ := bind_eq_ok_iff.mp h
  obtain rfl := Except.ok.inj h
  cases patch with
  | none => exact (Except.ok.inj hp).symm
  | some p =>
      have hread : ReviewPatchMetadata.coercePatch (.obj p.dump) = .ok currentPatch := hp
      rw [ReviewPatchMetadata.coercePatch_dump] at hread
      exact (Except.ok.inj hread).symm

/-- **A pushed payload** names the state's thread and shows its patch. -/
theorem pushed_patch {summary : PatchSummary} {p : ReviewPayload}
    (h : ReviewPayload.validate deps.now (.obj (reviewPayload t summary ++ policyAudit t)) =
      .ok p) :
    p.threadId = t.threadId.getD "" ∧ p.patchMetadata.currentPatch = t.currentPatch.getD [] := by
  simp only [ReviewPayload.validate, asDict_obj, ok_bind, reviewPayload, List.cons_append,
    List.nil_append] at h
  obtain ⟨threadId, hthread, h⟩ := bind_eq_ok_iff.mp h
  obtain ⟨obligationId, -, h⟩ := bind_eq_ok_iff.mp h
  obtain ⟨obligation, -, h⟩ := bind_eq_ok_iff.mp h
  obtain ⟨environment, -, h⟩ := bind_eq_ok_iff.mp h
  obtain ⟨patch, hpatch, h⟩ := bind_eq_ok_iff.mp h
  obtain ⟨diff, -, h⟩ := bind_eq_ok_iff.mp h
  obtain ⟨audit, -, h⟩ := bind_eq_ok_iff.mp h
  obtain ⟨batch, -, h⟩ := bind_eq_ok_iff.mp h
  obtain ⟨policy, -, h⟩ := bind_eq_ok_iff.mp h
  obtain ⟨trust, -, h⟩ := bind_eq_ok_iff.mp h
  obtain ⟨reasons, -, h⟩ := bind_eq_ok_iff.mp h
  obtain ⟨status, -, h⟩ := bind_eq_ok_iff.mp h
  obtain ⟨trail, -, h⟩ := bind_eq_ok_iff.mp h
  obtain rfl := Except.ok.inj h
  exact ⟨(Except.ok.inj hthread).symm, patchMetadata_read hpatch⟩

/-- The payload a run pushed, if it pushed one. -/
def pushedBody (r : Run) : Option Dict :=
  r.calls.findSome? fun call =>
    match call with
    | .createPendingReview body => some body
    | _ => none

/-- **What a fresh run has pushed**: a payload of its thread and its patch. -/
theorem pushedBody_spec {s : State} {body : Dict}
    (hbody : pushedBody (run deps .initEnvironment s) = some body) :
    ∃ p : ReviewPayload, body = p.dump ∧ p.threadId = s.threadId.getD "" ∧
      p.patchMetadata.currentPatch =
        (run deps .initEnvironment s).state.currentPatch.getD [] := by
  have hquiet : ∀ calls : List GatewayCall, (∀ c ∈ calls, c.isReview = false) →
      (calls.findSome? fun call =>
        match call with
        | .createPendingReview body => some body
        | _ => none) = none := by
    intro calls hcalls
    refine List.findSome?_eq_none_iff.mpr fun call hcall => ?_
    have hreview := hcalls call hcall
    cases call <;> first | rfl | cases hreview
  rcases reach_review deps s with hun | ⟨l, found, -, -, hcont⟩
  · rw [pushedBody, hquiet _ hun.calls] at hbody
    cases hbody
  · rw [pushedBody, hcont.calls, List.findSome?_append,
      hquiet (l.calls s) fun c hc => Lane.calls_not_review hc, Option.none_or] at hbody
    rw [hcont.state]
    -- Of the ends of a review only the interrupt calls out.
    cases run_policyReview deps (l.atReview s found) with
    | raised e error calls =>
        rw [calls] at hbody
        cases hbody
    | refused decision decides refuses state error calls =>
        rw [calls] at hbody
        cases hbody
    | accepted d b finds accepts bundle state error calls =>
        rw [calls] at hbody
        cases hbody
    | interrupted d summary finds reviews summarised state error calls =>
        rw [calls] at hbody
        unfold pushReview at hbody
        split at hbody
        · cases hbody
        next p hp =>
          obtain rfl : p.dump = body := Option.some.inj hbody
          obtain ⟨hthread, hpatch⟩ := pushed_patch hp
          -- Neither the lane nor the review touches the thread and the patch.
          have hinputs : (reviewed (l.atReview s found) (some d.dump)).inputs = s.inputs :=
            l.atReview_inputs s found
          refine ⟨p, rfl, ?_, ?_⟩
          · have hid := congrArg State.threadId hinputs
            rw [hthread]
            exact congrArg (Option.getD · "") hid
          · rw [hpatch, state]
            rfl

end

end ObligationRuntime
