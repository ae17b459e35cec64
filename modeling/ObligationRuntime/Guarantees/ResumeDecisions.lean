/-
  ObligationRuntime.Guarantees.ResumeDecisions — what a decision given in words does.

  A thread is resumed from the command line or over HTTP, with a decision typed by hand.
  Both entry points trim it and put it in lower case.  The endpoint then refuses every
  text but the two it knows; the command line takes them all for an approval, and an
  approved resume ends accepted.

  Main results:
    * `readsAs_resumeEndpoint` — the endpoint is fail-closed,
    * `cmdResume_unknown` — on the command line, an unknown decision ends accepted,
    * `resume_decisions_agree_iff` — the texts that both read alike,
    * `resume_decisions_agree_fails` — a misspelled rejection.
-/
import ObligationRuntime.Guarantees.ResumeSafety

namespace ObligationRuntime

open Py Flow Handlers

/-! ## §1. Fail-closed decisions. -/

/-- The text, trimmed and in lower case. -/
def decisionWord (decision : String) : String := lower (strip decision)

/-- The text names a decision. -/
def NamesDecision (decision : String) : Prop :=
  decisionWord decision = "approved" ∨ decisionWord decision = "rejected"

instance (decision : String) : Decidable (NamesDecision decision) :=
  inferInstanceAs (Decidable (_ ∨ _))

/-- How an entry point should read a decision: what it resumes as, if it starts the graph
at all. -/
structure ReadsAs (deps : Deps) (checkpoint : Option State) (threadId decision : String)
    (outcome : Option Run) : Prop where
  approved : outcome = some (resumeThread deps checkpoint threadId .approved) ↔
    decisionWord decision = "approved"
  rejected : outcome = some (resumeThread deps checkpoint threadId .rejected) ↔
    decisionWord decision = "rejected"
  unknown : ¬ NamesDecision decision → outcome = none
  accepted : ∀ r, outcome = some r → EndsWith r .accepted → decisionWord decision = "approved"

/-- **Resume decisions are fail-closed and agree**: the command line and the endpoint both
read the decision as they should. -/
def DecisionsAgree (deps : Deps) (checkpoint : Option State) (threadId decision : String) :
    Prop :=
  ReadsAs deps checkpoint threadId decision (cmdResume deps checkpoint threadId (some decision)) ∧
    ReadsAs deps checkpoint threadId decision
      (resumeEndpoint deps checkpoint threadId decision).toOption

/-! ## §2. The two resumes differ. -/

section

variable {deps : Deps} {checkpoint : Option State} {threadId decision : String}

/-- A rejected resume does not end accepted. -/
theorem rejected_not_accepted :
    ¬ EndsWith (resumeThread deps checkpoint threadId .rejected) .accepted := by
  intro hacc
  have hrej := resume_rejected deps checkpoint threadId
  have hstatus := hacc.2.symm.trans hrej.2
  cases hstatus

theorem resumeThread_ne :
    resumeThread deps checkpoint threadId .rejected ≠
      resumeThread deps checkpoint threadId .approved := by
  intro heq
  have hacc := (resume_approved deps checkpoint threadId).1
  rw [← heq] at hacc
  exact rejected_not_accepted hacc

/-- The two words are different, so a text names one decision. -/
theorem approvalOfText?_eq_some {s : String} {a : Approval} :
    approvalOfText? s = some a ↔ s = a.text := by
  cases a <;> simp only [approvalOfText?, Approval.text]
  · split <;> rename_i h <;> simp [h]
  · split <;> rename_i h
    · simp [h]
    · split <;> rename_i h' <;> simp [h']

theorem approvalOfText?_eq_none {s : String} :
    approvalOfText? s = none ↔ s ≠ "approved" ∧ s ≠ "rejected" := by
  unfold approvalOfText?
  split <;> rename_i h
  · simp [h]
  · split <;> rename_i h' <;> simp [h, h']

/-- A reading that resumes with the decision that the word names is as it should be. -/
theorem readsAs_of_named {outcome : Option Run}
    (h : outcome = (approvalOfText? (decisionWord decision)).map
      (resumeThread deps checkpoint threadId)) :
    ReadsAs deps checkpoint threadId decision outcome := by
  -- A word that names no decision resumes nothing; the two that do exclude each other.
  cases hd : approvalOfText? (decisionWord decision) with
  | none =>
      obtain ⟨hna, hnr⟩ := approvalOfText?_eq_none.mp hd
      obtain rfl : outcome = none := by rw [h, hd, Option.map_none]
      exact ⟨by simp [hna], by simp [hnr], fun _ => rfl, fun r hr => by cases hr⟩
  | some a =>
      rw [hd, Option.map_some] at h
      have hw := approvalOfText?_eq_some.mp hd
      subst h
      cases a with
      | approved =>
          have hno : decisionWord decision ≠ "rejected" := fun h => by
            rw [hw] at h
            exact absurd h (by decide)
          refine ⟨⟨fun _ => hw, fun _ => rfl⟩, ⟨fun h => ?_, fun h => absurd h hno⟩,
            fun hd => absurd (.inl hw) hd, fun _ _ _ => hw⟩
          exact absurd (Option.some.inj h).symm resumeThread_ne
      | rejected =>
          have hno : decisionWord decision ≠ "approved" := fun h => by
            rw [hw] at h
            exact absurd h (by decide)
          refine ⟨⟨fun h => ?_, fun h => absurd h hno⟩, ⟨fun _ => hw, fun _ => rfl⟩,
            fun hd => absurd (.inr hw) hd, fun r hr hacc => ?_⟩
          · exact absurd (Option.some.inj h) resumeThread_ne
          · rw [← Option.some.inj hr] at hacc
            exact absurd hacc rejected_not_accepted

/-! ## §3. The two entry points. -/

/-- **The endpoint is fail-closed**: for every text it does what it should. -/
theorem readsAs_resumeEndpoint :
    ReadsAs deps checkpoint threadId decision
      (resumeEndpoint deps checkpoint threadId decision).toOption := by
  apply readsAs_of_named
  rw [resumeEndpoint, ← decisionWord]
  cases approvalOfText? (decisionWord decision) <;> rfl

/-- On the command line, a text that names a decision means it. -/
theorem cmdResume_named (hid : threadId ≠ "") (hd : NamesDecision decision) :
    cmdResume deps checkpoint threadId (some decision) =
      (approvalOfText? (decisionWord decision)).map (resumeThread deps checkpoint threadId) := by
  -- The empty text, which the command line replaces, names none.
  have hne : decision ≠ "" := by
    rintro rfl
    exact absurd hd (by decide)
  rw [cmdResume, if_neg hid, cliDecision, cliText, if_neg hne, ← decisionWord]
  obtain h | h := hd <;> simp [h, approvalOfText?]

variable (deps checkpoint) in
/-- **On the command line, a text that names no decision is an approval**, and the run ends
accepted. -/
theorem cmdResume_unknown (hid : threadId ≠ "") (hd : ¬ NamesDecision decision) :
    ∃ r, cmdResume deps checkpoint threadId (some decision) = some r ∧ EndsWith r .accepted := by
  refine ⟨resumeThread deps checkpoint threadId .approved, ?_,
    (resume_approved deps checkpoint threadId).1⟩
  rw [cmdResume, if_neg hid, cliDecision]
  by_cases he : decision = ""
  · subst he
    rfl
  · have hnone : approvalOfText? (decisionWord decision) = none :=
      approvalOfText?_eq_none.mpr (not_or.mp hd)
    rw [cliText, if_neg he, ← decisionWord, hnone]
    rfl

end

/-- **The decisions that both entry points read alike** are the two that are named, and no
other text. -/
theorem resume_decisions_agree_iff (deps : Deps) (checkpoint : Option State)
    (threadId decision : String) (hid : threadId ≠ "") :
    DecisionsAgree deps checkpoint threadId decision ↔ NamesDecision decision := by
  constructor
  · rintro ⟨hcli, -⟩
    by_contra hd
    obtain ⟨r, hr, -⟩ := cmdResume_unknown deps checkpoint hid hd
    rw [hcli.unknown hd] at hr
    cases hr
  · intro hd
    exact ⟨readsAs_of_named (cmdResume_named hid hd), readsAs_resumeEndpoint⟩

namespace Scripted

/-- A rejection in capitals, with a space, is read alike. -/
theorem resume_decisions_agree_scripted :
    DecisionsAgree failingDeps (latestCheckpoint "thread" rejectedThread) "thread" " Rejected " ∧
      NamesDecision " Rejected " :=
  have hd : NamesDecision " Rejected " := by decide
  ⟨(resume_decisions_agree_iff failingDeps _ "thread" " Rejected " (by decide)).mpr hd, hd⟩

end Scripted

/-- **A misspelled rejection is an acceptance**: the endpoint answers 400, the command line
resumes the thread and the run ends accepted. -/
theorem resume_decisions_agree_fails :
    let before := latestCheckpoint "thread" Scripted.rejectedThread
    let r := resumeThread Scripted.failingDeps before "thread" .approved
    resumeEndpoint Scripted.failingDeps before "thread" "rejcted" =
        .error (.apiError 400 "bad_request") ∧
      cmdResume Scripted.failingDeps before "thread" (some "rejcted") = some r ∧
      EndsWith r .accepted ∧
      ¬ DecisionsAgree Scripted.failingDeps before "thread" "rejcted" := by
  intro before r
  have hr : cmdResume Scripted.failingDeps before "thread" (some "rejcted") = some r := rfl
  refine ⟨rfl, hr, (resume_approved _ _ _).1, fun hagree => ?_⟩
  have hnone := hagree.1.unknown (by decide)
  rw [hr] at hnone
  cases hnone

end ObligationRuntime
