/-
  ObligationRuntime.Guarantees.ApprovalBinding — whether an approval is bound to the
  review of the interrupt it lets through.

  The parties share a thread id and nothing else: a review may be overwritten or never
  arrive while its run awaits approval, and a decision may arrive after another
  interrupt.  What is proved here is that nothing else goes wrong: where no step of a run
  does one of these, every accepted run was approved on its own review, and every run
  that awaits approval has its review in the store.

  Main results:
    * `bound_step` — what one step keeps,
    * `approval_bound` — the runs of the parties in which approvals are bound,
    * `approval_bound_fails` — an interrupt whose review never arrives.
-/
import ObligationRuntime.Guarantees.DecisionFinality
import ObligationRuntime.Guarantees.ResumeFrame
import ObligationRuntime.Runtime.Parties

namespace ObligationRuntime

open Py Flow Handlers Gateway

/-! ## §1. What it is for an approval to be bound. -/

/-- The payload shows the patch of the state. -/
def ShowsPatch (payload : Dict) (s : State) : Prop :=
  ∃ p : ReviewPayload, payload = p.dump ∧ p.patchMetadata.currentPatch = s.currentPatch.getD []

namespace Parties

variable {S : ReviewStoreProtocol}

/-- The interrupt of the job is on this thread and created this payload. -/
def Pushed (σ : Parties S) (i : Nat) (t : String) (body : Dict) : Prop :=
  ∃ job, σ.jobs[i]? = some job ∧ job.threadId = t ∧ pushedBody job.run = some body

/-- The store holds the review created by the interrupt the checkpoint comes from. -/
def ReviewHeld (σ : Parties S) (t : String) (s : State) : Prop :=
  ∃ i r, σ.interruptOf t = some i ∧ σ.held t = some (.interrupt i) ∧
    S.get σ.store t = some r ∧ σ.Pushed i t r.payload ∧ ShowsPatch r.payload s

/-- The decision was an approval recorded while the store held the payload created by
the interrupt of the run it accepted. -/
def ReviewApproved (σ : Parties S) (f : Finalised) : Prop :=
  ∃ i, f.job = some i ∧ f.decision = some (.interrupt i) ∧
    ∃ a ∈ σ.approvals, a.threadId = f.threadId ∧ a.origin = .interrupt i ∧
      σ.Pushed i f.threadId a.payload ∧ ShowsPatch a.payload f.state

/-- **Approvals are bound** to the interrupts they let through. -/
structure ApprovalBound (σ : Parties S) : Prop where
  pending : ∀ t s, σ.checkpoints t = some s → s.status = some .awaitingApproval →
    σ.ReviewHeld t s
  approved : ∀ f ∈ σ.finalised, σ.ReviewApproved f

/-- The step neither replaces nor misses the review of a run that awaits approval, and
brings no decision on another review. -/
def Careful (http : String → Option String) (σ : Parties S) : PartyAction → Prop
  | .push i delivered =>
      ∀ job ∈ σ.jobs[i]?, job.pushed = false → delivered = true →
        (pushedBody job.run).isSome → ¬ σ.Awaiting job.threadId
  | .commit i =>
      ∀ job ∈ σ.jobs[i]?, job.done = false → job.run.state.status = some .awaitingApproval →
        σ.held job.threadId = some (.interrupt i)
  | .api call => ∀ t ∈ call.createdThread, ¬ σ.Awaiting t
  | .deliver k _ =>
      ∀ p ∈ σ.posts[k]?, ∀ t ∈ (http p.post.path).bind resumeRoute,
        p.post.decision = .approved → σ.Awaiting t → p.origin = σ.held t
  | _ => True

instance (http : String → Option String) (σ : Parties S) :
    ∀ a, Decidable (Careful http σ a)
  | .push i delivered =>
      inferInstanceAs (Decidable (∀ job ∈ σ.jobs[i]?, job.pushed = false → delivered = true →
        (pushedBody job.run).isSome → ¬ σ.Awaiting job.threadId))
  | .commit i =>
      inferInstanceAs (Decidable (∀ job ∈ σ.jobs[i]?, job.done = false →
        job.run.state.status = some .awaitingApproval →
          σ.held job.threadId = some (.interrupt i)))
  | .api call => inferInstanceAs (Decidable (∀ t ∈ call.createdThread, ¬ σ.Awaiting t))
  | .deliver k _ =>
      inferInstanceAs (Decidable (∀ p ∈ σ.posts[k]?,
        ∀ t ∈ (http p.post.path).bind resumeRoute,
          p.post.decision = .approved → σ.Awaiting t → p.origin = σ.held t))
  | .start .. => .isTrue trivial
  | .save .. => .isTrue trivial
  | .lose .. => .isTrue trivial

/-! ## §2. The links between the parties. -/

/-- What is known of a job: only its last state may await approval, and its interrupt
created a payload of its thread and its patch. -/
structure JobOk (job : Job) : Prop where
  visited : ∀ n ∈ job.run.visited, n.2.status ≠ some .awaitingApproval
  body : ∀ body, pushedBody job.run = some body → ∃ p : ReviewPayload, body = p.dump ∧
    p.threadId = job.threadId ∧ p.patchMetadata.currentPatch = job.run.state.currentPatch.getD []

/-- What links the parties, whatever the checkpoints are. -/
structure Linked (σ : Parties S) : Prop where
  jobs : ∀ job ∈ σ.jobs, JobOk job
  held : ∀ t i, σ.held t = some (.interrupt i) →
    ∃ r, S.get σ.store t = some r ∧ σ.Pushed i t r.payload
  stored : ∀ t, (S.get σ.store t).isSome → (σ.held t).isSome
  decided : ∀ t r, S.get σ.store t = some r → r.decision = some .approved →
    ∃ a ∈ σ.approvals, a.threadId = t ∧ σ.held t = some a.origin
  posted : ∀ p ∈ σ.posts, p.post.decision = .approved →
    ∃ a ∈ σ.approvals, a.threadId = p.post.threadId ∧ p.origin = some a.origin
  approvals : ∀ a ∈ σ.approvals, ∀ i, a.origin = .interrupt i → σ.Pushed i a.threadId a.payload

/-- The invariant. -/
structure Inv (σ : Parties S) : Prop extends Linked σ, ApprovalBound σ

section

variable {σ : Parties S} {t : String} {i : Nat} {body : Dict}

/-- What a job pushed is its alone. -/
theorem Pushed.unique {u : String} {body' : Dict} (h : σ.Pushed i t body)
    (h' : σ.Pushed i u body') : t = u ∧ body = body' := by
  obtain ⟨job, hjob, rfl, hbody⟩ := h
  obtain ⟨job', hjob', rfl, hbody'⟩ := h'
  obtain rfl := Option.some.inj (hjob.symm.trans hjob')
  exact ⟨rfl, Option.some.inj (hbody.symm.trans hbody')⟩

/-- Only an approval decides to approve. -/
theorem decides_approved {call : ReviewCall} (h : call.decides t = some .approved) :
    call = .approve t := by
  cases call with
  | approve u =>
      simp only [ReviewCall.decides] at h
      split at h
      next hu => rw [hu]
      next => cases h
  | reject u =>
      simp only [ReviewCall.decides] at h
      split at h <;> cases h
  | get u => cases h
  | create body => cases h
  | resume u => cases h

/-- A fresh run is a job that is known. -/
theorem jobOk_start (checkpoint : Option State) (request : RunRequest) (deps : Deps) :
    JobOk { threadId := t
            run := invoke deps checkpoint (makeInitialState { request with threadId := t }) } := by
  rw [invoke_filled]
  refine ⟨fun n hn => visited_not_awaiting ?_ hn, fun body hbody => pushedBody_spec hbody⟩
  simp [makeInitialState]

/-! ## §3. What the parts of a step keep. -/

/-- Jobs that keep what was pushed keep the invariant. -/
theorem Inv.withJobs {jobs : List Job} (h : Inv σ) (hok : ∀ job ∈ jobs, JobOk job)
    (hpushed : ∀ i t body, σ.Pushed i t body → Pushed { σ with jobs := jobs } i t body) :
    Inv { σ with jobs := jobs } where
  jobs := hok
  held t i hheld := by
    obtain ⟨r, hr, hp⟩ := h.held t i hheld
    exact ⟨r, hr, hpushed _ _ _ hp⟩
  stored := h.stored
  decided := h.decided
  posted := h.posted
  approvals a ha i hi := hpushed _ _ _ (h.approvals a ha i hi)
  pending t s hs hst := by
    obtain ⟨i, r, hi, hheld, hr, hp, hshow⟩ := h.pending t s hs hst
    exact ⟨i, r, hi, hheld, hr, hpushed _ _ _ hp, hshow⟩
  approved f hf := by
    obtain ⟨i, hi, hd, a, ha, hat, hao, hp, hshow⟩ := h.approved f hf
    exact ⟨i, hi, hd, a, ha, hat, hao, hpushed _ _ _ hp, hshow⟩

/-- A flag of a job changes. -/
theorem Inv.withFlag {job job' : Job} (h : Inv σ) (hjob : σ.jobs[i]? = some job)
    (hthread : job'.threadId = job.threadId) (hrun : job'.run = job.run) :
    Inv { σ with jobs := σ.jobs.set i job' } := by
  have hok : JobOk job' := by
    have hold := h.jobs job (List.mem_of_getElem? hjob)
    exact ⟨by rw [hrun]; exact hold.visited, by rw [hthread, hrun]; exact hold.body⟩
  refine h.withJobs (fun j hj => ?_) ?_
  · rcases List.mem_or_eq_of_mem_set hj with hj | rfl
    · exact h.jobs j hj
    · exact hok
  · rintro k t body ⟨j, hj, ht, hbody⟩
    by_cases hk : i = k
    · subst hk
      obtain rfl := Option.some.inj (hjob.symm.trans hj)
      refine ⟨job', ?_, hthread.trans ht, by rw [hrun]; exact hbody⟩
      have hlt : i < σ.jobs.length := (List.getElem?_eq_some_iff.mp hjob).1
      simp [hlt]
    · exact ⟨j, by rw [List.getElem?_set_ne hk]; exact hj, ht, hbody⟩

/-- A job is added. -/
theorem Inv.withJob {job : Job} (h : Inv σ) (hok : JobOk job) :
    Inv { σ with jobs := σ.jobs ++ [job] } := by
  refine h.withJobs (fun j hj => ?_) ?_
  · rcases List.mem_append.mp hj with hj | hj
    · exact h.jobs j hj
    · rw [List.mem_singleton.mp hj]
      exact hok
  · rintro k t body ⟨j, hj, ht, hbody⟩
    have hlt : k < σ.jobs.length := (List.getElem?_eq_some_iff.mp hj).1
    exact ⟨j, by rw [List.getElem?_append_left hlt]; exact hj, ht, hbody⟩

/-- A checkpoint is saved: one that awaits approval must have its review. -/
theorem Inv.saved {s : State} {job : Option Nat} (h : Inv σ)
    (hs : s.status = some .awaitingApproval → (σ.saved t s job).ReviewHeld t s) :
    Inv (σ.saved t s job) where
  jobs := h.jobs
  held := h.held
  stored := h.stored
  decided := h.decided
  posted := h.posted
  approvals := h.approvals
  pending u s' hs' hst := by
    rw [saved_checkpoints] at hs'
    by_cases hu : u = t
    · subst hu
      rw [if_pos rfl] at hs'
      obtain rfl := Option.some.inj hs'
      exact hs hst
    · rw [if_neg hu] at hs'
      obtain ⟨i, r, hi, hrest⟩ := h.pending u s' hs' hst
      refine ⟨i, r, ?_, hrest⟩
      rw [saved_interruptOf, if_neg hu]
      exact hi
  approved := h.approved

/-- A checkpoint that does not await approval is saved. -/
theorem Inv.saved_other {s : State} (h : Inv σ) (hs : s.status ≠ some .awaitingApproval) :
    Inv (σ.saved t s none) :=
  h.saved fun hst => absurd hst hs

/-- Posts that come from approvals, where they approve. -/
theorem Inv.withPosts {posts : List InFlight} (h : Inv σ)
    (hposts : ∀ p ∈ posts, p.post.decision = .approved →
      ∃ a ∈ σ.approvals, a.threadId = p.post.threadId ∧ p.origin = some a.origin) :
    Inv { σ with posts := posts } where
  jobs := h.jobs
  held := h.held
  stored := h.stored
  decided := h.decided
  posted := hposts
  approvals := h.approvals
  pending := h.pending
  approved := h.approved

/-- A post is gone. -/
theorem Inv.without (h : Inv σ) (k : Nat) : Inv { σ with posts := σ.posts.eraseIdx k } :=
  h.withPosts fun p hp => h.posted p (List.mem_of_mem_eraseIdx hp)

/-- The approval a call records is on the review that is in the store. -/
theorem mem_approvedBy {call : ReviewCall} {a : Approved} (ha : a ∈ σ.approvedBy call) :
    call = .approve a.threadId ∧ σ.held a.threadId = some a.origin ∧
      ∃ r, S.get σ.store a.threadId = some r ∧ r.payload = a.payload := by
  cases call with
  | approve t =>
      simp only [approvedBy] at ha
      split at ha
      next r o hr ho =>
        obtain rfl := List.mem_singleton.mp ha
        exact ⟨rfl, ho, r, hr, rfl⟩
      next => cases ha
  | get t => cases ha
  | create body => cases ha
  | reject t => cases ha
  | resume t => cases ha

/-- A review that is created is pending, and comes from the call. -/
theorem called_of_create (σ : Parties S) (origin : Origin) {call : ReviewCall}
    (hc : call.creates t = some body) :
    S.get (σ.called origin call).store t = some ⟨body, none⟩ ∧
      (σ.called origin call).held t = some origin := by
  constructor
  · show S.get (call.step S σ.store) t = _
    rw [get_step, hc]
  · simp [Parties.called, hc]

/-- Where a call creates no review, the review keeps its payload and where it comes
from. -/
theorem called_of_none (σ : Parties S) (origin : Origin) {call : ReviewCall}
    (hc : call.creates t = none) :
    (S.get (σ.called origin call).store t).map ReviewRecord.payload =
        (S.get σ.store t).map ReviewRecord.payload ∧
      (σ.called origin call).held t = σ.held t := by
  constructor
  · show (S.get (call.step S σ.store) t).map ReviewRecord.payload = _
    rw [get_step, hc]
    cases call.decides t with
    | none => rfl
    | some d =>
        rw [Option.map_map]
        rfl
  · simp [Parties.called, hc]

/-- **A call reaches the store**: no review of a run that awaits approval is created
anew, and an interrupt creates what its job pushed. -/
theorem Inv.called {origin : Origin} {call : ReviewCall} (h : Inv σ)
    (hawait : ∀ t, (call.creates t).isSome → ¬ σ.Awaiting t)
    (hcreate : ∀ i t body, origin = .interrupt i → call.creates t = some body →
      σ.Pushed i t body) :
    Inv (σ.called origin call) where
  jobs := h.jobs
  held t i hheld := by
    cases hc : call.creates t with
    | some body =>
        obtain ⟨hget, horigin⟩ := called_of_create σ origin hc
        rw [horigin] at hheld
        exact ⟨_, hget, hcreate i t body (Option.some.inj hheld) hc⟩
    | none =>
        obtain ⟨hpayload, hsame⟩ := called_of_none σ origin hc
        rw [hsame] at hheld
        obtain ⟨r, hr, hp⟩ := h.held t i hheld
        rw [hr] at hpayload
        obtain ⟨r', hr', hpay⟩ := Option.map_eq_some_iff.mp hpayload
        exact ⟨r', hr', hpay ▸ hp⟩
  stored t hr := by
    cases hc : call.creates t with
    | some body =>
        rw [(called_of_create σ origin hc).2]
        rfl
    | none =>
        obtain ⟨hpayload, hsame⟩ := called_of_none σ origin hc
        rw [hsame]
        refine h.stored t ?_
        rwa [← Option.isSome_map, ← hpayload, Option.isSome_map]
  decided t r hr hd := by
    show ∃ a ∈ σ.approvals ++ σ.approvedBy call, a.threadId = t ∧
      (if (call.creates t).isSome then some origin else σ.held t) = some a.origin
    have hget : S.get (call.step S σ.store) t = some r := hr
    rw [get_step] at hget
    cases hc : call.creates t with
    | some body =>
        -- What was just created is undecided.
        rw [hc] at hget
        obtain rfl := Option.some.inj hget
        cases hd
    | none =>
        rw [hc] at hget
        cases hdec : call.decides t with
        | none =>
            rw [hdec] at hget
            obtain ⟨a, ha, hrest⟩ := h.decided t r hget hd
            exact ⟨a, List.mem_append_left _ ha, hrest⟩
        | some d =>
            rw [hdec] at hget
            obtain ⟨r', hr', rfl⟩ := Option.map_eq_some_iff.mp hget
            obtain rfl := Option.some.inj hd
            obtain rfl := decides_approved hdec
            obtain ⟨o, ho⟩ := Option.isSome_iff_exists.mp (h.stored t (by rw [hr']; rfl))
            refine ⟨⟨t, o, r'.payload⟩, List.mem_append_right _ ?_, rfl, ho⟩
            simp [approvedBy, hr', ho]
  posted p hp hd := by
    obtain ⟨a, ha, hrest⟩ := h.posted p hp hd
    exact ⟨a, List.mem_append_left _ ha, hrest⟩
  approvals a ha i hi := by
    rcases List.mem_append.mp ha with ha | ha
    · exact h.approvals a ha i hi
    · obtain ⟨-, hheld, r, hr, hpay⟩ := mem_approvedBy ha
      obtain ⟨r', hr', hp⟩ := h.held a.threadId i (by rw [hheld, hi])
      obtain rfl := Option.some.inj (hr.symm.trans hr')
      rw [← hpay]
      exact hp
  pending t s hs hst := by
    have hnone : call.creates t = none := by
      refine Option.not_isSome_iff_eq_none.mp fun hc => hawait t hc ?_
      rw [Awaiting, show σ.checkpoints t = some s from hs]
      exact hst
    obtain ⟨i, r, hi, hheld, hr, hp, hshow⟩ := h.pending t s hs hst
    obtain ⟨hpayload, hsame⟩ := called_of_none σ origin hnone
    rw [hr] at hpayload
    obtain ⟨r', hr', hpay⟩ := Option.map_eq_some_iff.mp hpayload
    exact ⟨i, r', hi, hsame.trans hheld, hr', hpay ▸ hp, hpay ▸ hshow⟩
  approved f hf := by
    obtain ⟨i, hi, hd, a, ha, hrest⟩ := h.approved f hf
    exact ⟨i, hi, hd, a, List.mem_append_left _ ha, hrest⟩

/-- Resumes that accepted approved reviews. -/
theorem Inv.withFinalised {fs : List Finalised} (h : Inv σ)
    (hfs : ∀ f ∈ fs, σ.ReviewApproved f) : Inv { σ with finalised := σ.finalised ++ fs } where
  jobs := h.jobs
  held := h.held
  stored := h.stored
  decided := h.decided
  posted := h.posted
  approvals := h.approvals
  pending := h.pending
  approved f hf := by
    rcases List.mem_append.mp hf with hf | hf
    · exact h.approved f hf
    · exact hfs f hf

/-- What a resume accepts is the checkpoint it found. -/
theorem mem_finalisedBy {o : Option Origin} {r : Run} {f : Finalised}
    (hf : f ∈ σ.finalisedBy t o r) :
    ∃ s, σ.checkpoints t = some s ∧ s.status = some .awaitingApproval ∧
      r.state.status = some .accepted ∧ f = ⟨t, σ.interruptOf t, o, s⟩ := by
  unfold finalisedBy at hf
  split at hf
  next s hs =>
    split at hf
    next hst => exact ⟨s, hs, hst.1, hst.2, List.mem_singleton.mp hf⟩
    next => cases hf
  next => cases hf

/-- A resume leaves no thread awaiting approval. -/
theorem resume_not_awaiting (deps : Deps) (checkpoint : Option State) (t : String)
    (d : Approval) : (resumeThread deps checkpoint t d).state.status ≠ some .awaitingApproval := by
  cases d with
  | approved => simp [(resume_approved deps checkpoint t).1.2]
  | rejected => simp [(resume_rejected deps checkpoint t).2]

/-! ## §4. What a step keeps. -/

variable {env : ReviewEnv} {http : String → Option String}

theorem inv_start {request : RunRequest} {deps : Deps} (h : Inv σ) :
    Inv (σ.start t request deps) := by
  have hstatus : (startState (σ.checkpoints t)
      (makeInitialState { request with threadId := t })).status ≠ some .awaitingApproval := by
    rw [startState_makeInitialState]
    simp [makeInitialState]
  exact (h.saved_other hstatus).withJob (jobOk_start _ _ _)

theorem inv_save {k : Nat} (h : Inv σ) : Inv (σ.save i k) := by
  unfold save
  split
  next => exact h
  next job hjob =>
    split
    · exact h
    · split
      next => exact h
      next node hnode =>
        have hok := h.jobs job (List.mem_of_getElem? hjob)
        exact h.saved_other (hok.visited node (List.mem_of_getElem? hnode))

theorem inv_push {delivered : Bool} (h : Inv σ) (hc : Careful http σ (.push i delivered)) :
    Inv (σ.push i delivered) := by
  unfold push
  split
  next => exact h
  next job hjob =>
    split
    · exact h
    next hpushed =>
      have hflag : Inv { σ with jobs := σ.jobs.set i { job with pushed := true } } :=
        h.withFlag hjob rfl rfl
      simp only
      split
      next body hbody =>
        -- The payload is one of the job's own thread.
        obtain ⟨p, rfl, hthread, -⟩ := (h.jobs job (List.mem_of_getElem? hjob)).body body hbody
        refine hflag.called (fun t ht => ?_) fun k t body' hk ht => ?_
        · rw [creates_dump] at ht
          split at ht
          next hpt =>
            rw [← hpt, hthread]
            exact hc job hjob (by simpa using hpushed) rfl (by rw [hbody]; rfl)
          next => cases ht
        · obtain rfl := Origin.interrupt.inj hk
          rw [creates_dump] at ht
          split at ht
          next hpt =>
            obtain rfl := Option.some.inj ht
            have hlt : i < σ.jobs.length := (List.getElem?_eq_some_iff.mp hjob).1
            exact ⟨{ job with pushed := true }, by simp [hlt], hthread.symm.trans hpt, hbody⟩
          next => cases ht
      next => exact hflag

theorem inv_commit (h : Inv σ) (hc : Careful http σ (.commit i)) : Inv (σ.commit i) := by
  unfold commit
  split
  next => exact h
  next job hjob =>
    split
    · exact h
    next hdone =>
      refine Inv.saved (h.withFlag hjob rfl rfl) fun hst => ?_
      -- The review in the store is the one this job created.
      have hheld := hc job hjob (by simpa using hdone) hst
      obtain ⟨r, hr, hp⟩ := h.held _ _ hheld
      obtain ⟨job', hjob', -, hbody⟩ := hp
      obtain rfl := Option.some.inj (hjob.symm.trans hjob')
      obtain ⟨p, hdump, -, hpatch⟩ := (h.jobs job (List.mem_of_getElem? hjob)).body _ hbody
      have hlt : i < σ.jobs.length := (List.getElem?_eq_some_iff.mp hjob).1
      refine ⟨i, r, ?_, hheld, hr, ⟨{ job with done := true }, ?_, rfl, hbody⟩, p, hdump, hpatch⟩
      · rw [saved_interruptOf, if_pos rfl, if_pos hst]
      · simp [Parties.saved, hlt]

theorem inv_api {call : ReviewCall} (h : Inv σ) (hc : Careful http σ (.api call)) :
    Inv (api env σ call) := by
  have hcalled : Inv (σ.called (.api σ.calls) call) :=
    h.called (fun t ht => hc t (ReviewCall.creates_isSome.mp ht)) fun i t body hi => by cases hi
  have hposts : Inv { σ.called (.api σ.calls) call with
      posts := σ.posts ++ (call.posts env S σ.store).map fun p => ⟨p, σ.held p.threadId⟩ } := by
    refine hcalled.withPosts fun p hp hd => ?_
    rcases List.mem_append.mp hp with hp | hp
    · exact hcalled.posted p hp hd
    · -- A new post carries the decision on record.
      obtain ⟨post, hpost, rfl⟩ := List.mem_map.mp hp
      obtain ⟨-, hrec⟩ := posts_recorded hpost
      obtain ⟨r, hr, hrd⟩ := Option.bind_eq_some_iff.mp hrec
      obtain ⟨a, ha, hat, hheld⟩ := h.decided post.threadId r hr (by rw [hrd, hd])
      exact ⟨a, List.mem_append_left _ ha, hat, hheld⟩
  exact ⟨⟨hposts.jobs, hposts.held, hposts.stored, hposts.decided, hposts.posted,
    hposts.approvals⟩, hposts.pending, hposts.approved⟩

/-- What a delivered post does: it resumes a thread with its decision, or nothing. -/
theorem deliver_cases (http : String → Option String) (k : Nat) (deps : Deps) :
    deliver http σ k deps = { σ with posts := σ.posts.eraseIdx k } ∨
      ∃ p t, σ.posts[k]? = some p ∧ (http p.post.path).bind resumeRoute = some t ∧
        deliver http σ k deps =
          let r := resumeThread deps (σ.checkpoints t) t p.post.decision
          { Parties.saved { σ with posts := σ.posts.eraseIdx k } t r.state none with
            finalised := σ.finalised ++ σ.finalisedBy t p.origin r } := by
  unfold deliver
  split
  next hnone =>
    left
    rw [List.eraseIdx_of_length_le (List.getElem?_eq_none_iff.mp hnone)]
  next p hp =>
    simp only
    split
    next => exact .inl rfl
    next t ht =>
      have hend : resumeEndpoint deps (σ.checkpoints t) t p.post.decision.text =
          .ok (resumeThread deps (σ.checkpoints t) t p.post.decision) := by
        -- The post carries one of the two words that the endpoint knows.
        have htext : approvalOfText? (lower (strip p.post.decision.text)) =
            some p.post.decision := by
          cases p.post.decision <;> decide
        simp only [resumeEndpoint, htext]
      rw [hend]
      exact .inr ⟨p, t, hp, ht, rfl⟩

theorem inv_deliver (k : Nat) (deps : Deps) (h : Inv σ) (hc : Careful http σ (.deliver k deps)) :
    Inv (deliver http σ k deps) := by
  rcases deliver_cases (σ := σ) http k deps with hnone | ⟨p, t, hp, ht, hdeliver⟩
  · rw [hnone]
    exact h.without k
  · rw [hdeliver]
    have hsaved := (h.without k).saved_other (t := t) (resume_not_awaiting deps
      (σ.checkpoints t) t p.post.decision)
    refine hsaved.withFinalised fun f hf => ?_
    obtain ⟨s, hs, hst, hacc, rfl⟩ := mem_finalisedBy hf
    have happroved : p.post.decision = .approved := by
      cases hd : p.post.decision with
      | approved => rfl
      | rejected =>
          rw [hd, (resume_rejected deps (σ.checkpoints t) t).2] at hacc
          cases hacc
    have hawait : σ.Awaiting t := by
      rw [Awaiting, hs]
      exact hst
    -- The decision is on the review that the store holds, which is the interrupt's.
    have horigin : p.origin = σ.held t := hc p hp t ht happroved hawait
    obtain ⟨i, r, hi, hheld, hr, hpushed, hshow⟩ := h.pending t s hs hst
    obtain ⟨a, ha, -, hao⟩ := h.posted p (List.mem_of_getElem? hp) happroved
    have haorigin : a.origin = .interrupt i :=
      Option.some.inj (hao.symm.trans (horigin.trans hheld))
    obtain ⟨hthread, hpayload⟩ := (h.approvals a ha i haorigin).unique hpushed
    refine ⟨i, hi, horigin.trans hheld, a, ha, hthread, haorigin, ?_, ?_⟩
    · rw [hpayload]
      exact hpushed
    · rw [hpayload]
      exact hshow

/-- **What one step keeps.** -/
theorem bound_step (a : PartyAction) (h : Inv σ) (hc : Careful http σ a) :
    Inv (step env http σ a) := by
  cases a with
  | start t request deps => exact inv_start h
  | save i k => exact inv_save h
  | push i delivered => exact inv_push h hc
  | commit i => exact inv_commit h hc
  | api call => exact inv_api h hc
  | deliver k deps => exact inv_deliver k deps h hc
  | lose k => exact h.without k

theorem inv_initial : Inv (initial S) where
  jobs job hjob := by cases hjob
  held t i ht := by cases ht
  stored t ht := by
    have hnone : (S.get S.empty t).isSome := ht
    rw [S.get_empty] at hnone
    cases hnone
  decided t r hr := by
    have hnone : S.get S.empty t = some r := hr
    rw [S.get_empty] at hnone
    cases hnone
  posted p hp := by cases hp
  approvals a ha := by cases ha
  pending t s hs := by cases hs
  approved f hf := by cases hf

end

end Parties

/-- **Where approvals are bound.**  In every run of the parties, over either backend,
whose steps neither replace nor miss the review of a run that awaits approval and bring
no decision on another review, approvals are bound in every state. -/
theorem approval_bound (mode : ReviewStoreMode) (env : ReviewEnv)
    (http : String → Option String) (as : List PartyAction)
    (h : Transition.Meets (Parties.step env http) (Parties.Careful http)
      (Parties.initial (reviewStore mode)) as) :
    ∀ pre, pre <+: as →
      (Transition.run (Parties.step env http) (Parties.initial (reviewStore mode))
        pre).ApprovalBound := by
  intro pre hpre
  exact (h.invariant (fun σ a hσ ha => Parties.bound_step a hσ ha) Parties.inv_initial pre
    hpre).toApprovalBound

/-! ## §5. Where they are not. -/

section

variable {S : ReviewStoreProtocol} {σ : Parties S}

/-- A run awaits approval without a review. -/
theorem not_bound_of_missing {t : String} (hawait : σ.Awaiting t)
    (hnone : S.get σ.store t = none) : ¬ σ.ApprovalBound := by
  intro h
  obtain ⟨s, hs, hst⟩ := Option.bind_eq_some_iff.mp hawait
  obtain ⟨i, r, -, -, hr, -⟩ := h.pending t s hs hst
  rw [hnone] at hr
  cases hr

/-- A run was accepted by a decision on the review of another. -/
theorem not_bound_of_stale {i j : Nat} (hij : i ≠ j)
    (hstale : (some i, some (.interrupt j)) ∈ σ.finalised.map fun f => (f.job, f.decision)) :
    ¬ σ.ApprovalBound := by
  intro h
  obtain ⟨f, hf, hfd⟩ := List.mem_map.mp hstale
  obtain ⟨hjob, hdecision⟩ := Prod.mk.inj hfd
  obtain ⟨k, hk, hd, -⟩ := h.approved f hf
  obtain rfl := Option.some.inj (hjob.symm.trans hk)
  obtain rfl := Origin.interrupt.inj (Option.some.inj (hdecision.symm.trans hd))
  exact hij rfl

end

namespace Scripted

/-- What the scripted runs are answered. -/
def reviewDeps : Deps := deps "s1" checked verified pack

/-- A run of a protected file is started on the thread. -/
def protectedRun : PartyAction :=
  .start "thread" { request patch with obligation := protecting } reviewDeps

/-- The parties after these steps, over the store in memory. -/
def partiesAfter (as : List PartyAction) : Parties memoryStore :=
  Transition.run (Parties.step Gateway.Scripted.reviewEnv some) (Parties.initial memoryStore) as

/-- The review of the interrupt never arrives. -/
def missedReview : List PartyAction := [protectedRun, .push 0 false, .commit 0]

/-- The decision on the first interrupt arrives after the second. -/
def staleDecision : List PartyAction :=
  [protectedRun, .push 0 true, .commit 0, .api (.approve "thread"), .api (.resume "thread"),
    protectedRun, .push 1 true, .commit 1, .deliver 0 reviewDeps]

/-- The run is interrupted, reviewed, approved and resumed. -/
def reviewedRun : List PartyAction :=
  [protectedRun, .push 0 true, .commit 0, .api (.approve "thread"), .api (.resume "thread"),
    .deliver 0 reviewDeps]

end Scripted

/-- **An interrupt whose review never arrives**, and a decision on the first interrupt of
a thread that accepts its second. -/
theorem approval_bound_fails :
    ¬ (Scripted.partiesAfter Scripted.missedReview).ApprovalBound ∧
      ¬ (Scripted.partiesAfter Scripted.staleDecision).ApprovalBound := by
  constructor
  · exact not_bound_of_missing (t := "thread") (by decide +kernel) (by decide +kernel)
  · exact not_bound_of_stale (i := 1) (j := 0) (by decide) (by decide +kernel)

/-- A run that is interrupted, reviewed, approved and resumed. -/
theorem approval_bound_reviewed :
    (∀ pre, pre <+: Scripted.reviewedRun → (Scripted.partiesAfter pre).ApprovalBound) ∧
      (Scripted.partiesAfter Scripted.reviewedRun).finalised.map Finalised.job = [some 0] :=
  ⟨approval_bound .memory Gateway.Scripted.reviewEnv some Scripted.reviewedRun
    (by decide +kernel), by decide +kernel⟩

end ObligationRuntime
