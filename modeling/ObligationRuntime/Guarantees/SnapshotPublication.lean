/-
  ObligationRuntime.Guarantees.SnapshotPublication — whether a base that is used is whole.

  A base is used as soon as its directory exists, while a copy may still fill it or has
  failed.  What is proved here is that nothing else goes wrong: each base has one maker,
  nothing else touches it, and a copy that has come to every file without a failure is
  the repository.  So where no check finds a base that is not whole, every open returns a
  whole copy and every workspace is one.

  Main results:
    * `inv_step` — what one step keeps,
    * `publication_atomic` — the runs in which publication is atomic,
    * `publication_atomic_fails` — an open that fails midway, and the next one.
-/
import ObligationRuntime.Gateway.Publication
import ObligationRuntime.Guarantees.Isolation

namespace ObligationRuntime

open Py Posix FileTree Transition

namespace Gateway

/-! ## §1. What atomic publication is. -/

/-- The tree is the whole repository of an open of the base. -/
def WholeCopy (g : GatewayConfig) (σ : Requests) (path : List Name)
    (t : FileSystem Name ByteArray) : Prop :=
  ∃ job ∈ σ.opens, job.base g = path ∧ t = job.source.disk.fs

/-- **Publication is atomic**: what opens have returned, and what sessions were created
from, is a whole copy. -/
structure AtomicPublication (g : GatewayConfig) (σ : Requests) : Prop where
  returned : ∀ o ∈ σ.returned, WholeCopy g σ (g.basePath (fingerprintId g.sha o.env)) o.base
  created : ∀ s ∈ σ.created, WholeCopy g σ (g.basePath s.fid) s.base ∧ s.work = s.base

/-- The copy that made the base has come to every file, and none has failed. -/
def Published (g : GatewayConfig) (σ : Requests) (path : List Name) : Prop :=
  ∃ job ∈ σ.opens, job.base g = path ∧ job.Copied

instance (g : GatewayConfig) (σ : Requests) (path : List Name) :
    Decidable (Published g σ path) := by
  unfold Published
  infer_instance

/-- The step does not take a base for whole while its copy is under way, or after a file
of it has failed. -/
def Careful (g : GatewayConfig) (σ : Requests) : RequestStep → Prop
  | .openCheck now payload disk =>
      ∀ o ∈ openFingerprint g now payload disk,
        (σ.disk.fs (g.basePath (fingerprintId g.sha o.1))).isSome →
          Published g σ (g.basePath (fingerprintId g.sha o.1))
  | .sessionCopytree i =>
      ∀ job ∈ σ.sessions[i]?, job.ended = false → job.copy.isSome = false →
        (σ.disk.fs (g.basePath job.fid)).isSome → Published g σ (g.basePath job.fid)
  | _ => True

instance (g : GatewayConfig) (σ : Requests) : ∀ a, Decidable (Careful g σ a)
  | .openCheck now payload disk =>
      inferInstanceAs (Decidable (∀ o ∈ openFingerprint g now payload disk,
        (σ.disk.fs (g.basePath (fingerprintId g.sha o.1))).isSome →
          Published g σ (g.basePath (fingerprintId g.sha o.1))))
  | .sessionCopytree i =>
      inferInstanceAs (Decidable (∀ job ∈ σ.sessions[i]?, job.ended = false →
        job.copy.isSome = false → (σ.disk.fs (g.basePath job.fid)).isSome →
          Published g σ (g.basePath job.fid)))
  | .openCopytree .. => .isTrue trivial
  | .openEntry .. => .isTrue trivial
  | .openReturn .. => .isTrue trivial
  | .openDies .. => .isTrue trivial
  | .sessionCheck .. => .isTrue trivial
  | .sessionEntry .. => .isTrue trivial
  | .sessionReturn .. => .isTrue trivial
  | .sessionDies .. => .isTrue trivial

/-! ## §2. The invariant. -/

/-- The tree is the repository of the open that has published the base. -/
def PublishedAs (g : GatewayConfig) (opens : List OpenJob) (path : List Name)
    (t : FileSystem Name ByteArray) : Prop :=
  ∃ job ∈ opens, job.base g = path ∧ job.Copied ∧ t = job.source.disk.fs

/-- What the copy of an open has made. -/
def OpenJob.Ok (g : GatewayConfig) (fs : Files) (job : OpenJob) : Prop :=
  ∀ c ∈ job.copy, IsDir fs (job.base g) ∧
    (c.failed = false → CopyOf job.source.disk.fs (sub fs (job.base g)) c.pending)

/-- What the copy of a new session has made. -/
def SessionJob.Ok (g : GatewayConfig) (opens : List OpenJob) (fs : Files) (job : SessionJob) :
    Prop :=
  ∀ c ∈ job.copy, IsDir fs (job.work g) ∧ PublishedAs g opens (g.basePath job.fid) job.base ∧
    (c.failed = false → CopyOf job.base (sub fs (job.work g)) c.pending)

/-- The invariant: each base and each workspace has one copy that made it. -/
structure Inv (g : GatewayConfig) (σ : Requests) : Prop extends AtomicPublication g σ where
  env : IsDir σ.disk.fs g.envRoot
  overlay : IsDir σ.disk.fs g.overlayRoot
  closed : Closed σ.disk.fs
  opens : ∀ job ∈ σ.opens, job.Ok g σ.disk.fs
  makers : ∀ (i j : Nat) (job job' : OpenJob), σ.opens[i]? = some job →
    σ.opens[j]? = some job' → job.copy.isSome → job'.copy.isSome → job.fid g = job'.fid g → i = j
  sessions : ∀ job ∈ σ.sessions, job.Ok g σ.opens σ.disk.fs
  copiers : ∀ (i j : Nat) (job job' : SessionJob), σ.sessions[i]? = some job →
    σ.sessions[j]? = some job' → job.copy.isSome → job'.copy.isSome →
    job.uuid.sessionId = job'.uuid.sessionId → i = j

section

variable {g : GatewayConfig} {σ : Requests} {i : Nat}

/-! ## §3. Where the copies are. -/

theorem OpenJob.base_eq (job : OpenJob) :
    job.base g = g.envRoot ++ (job.fid g).toList :: ["base".toList] := by
  rw [OpenJob.base, OpenJob.fid, fingerprintId, canonicalSha256, basePath_digest]

theorem SessionJob.work_eq (job : SessionJob) :
    job.work g = g.overlayRoot ++ job.uuid.sessionId.toList :: ["work".toList] :=
  workPath_eq _

/-- The bases of two fingerprints lie apart. -/
theorem bases_apart {job job' : OpenJob} (h : job.fid g ≠ job'.fid g) :
    Apart (job.base g) (job'.base g) := by
  rw [job.base_eq, job'.base_eq]
  exact snapshots_apart h _ _

/-- Bases and workspaces lie apart. -/
theorem base_apart_work (job : OpenJob) (job' : SessionJob) :
    Apart (job.base g) (job'.work g) := by
  rw [job.base_eq, job'.work_eq]
  exact env_apart_overlay _ _

/-- What a published base holds. -/
theorem Inv.published_tree {path : List Name} {t : FileSystem Name ByteArray} (h : Inv g σ)
    (ht : PublishedAs g σ.opens path t) : sub σ.disk.fs path = t ∧ Closed t := by
  obtain ⟨job, hjob, rfl, ⟨c, hc, hpending, hfailed⟩, rfl⟩ := ht
  obtain ⟨-, hcopy⟩ := h.opens job hjob c hc
  have hwhole := hcopy hfailed
  rw [hpending] at hwhole
  exact ⟨hwhole.whole, job.source.closed⟩

/-- Opens go on: their fingerprints and repositories stay, and what is copied. -/
def GoesOn (opens opens' : List OpenJob) : Prop :=
  ∀ job ∈ opens, ∃ job' ∈ opens', job'.env = job.env ∧ job'.source = job.source ∧
    (job.Copied → job'.Copied)

theorem GoesOn.publishedAs {opens opens' : List OpenJob} {path : List Name}
    {t : FileSystem Name ByteArray} (h : GoesOn opens opens')
    (ht : PublishedAs g opens path t) : PublishedAs g opens' path t := by
  obtain ⟨job, hjob, hpath, hcopied, hsource⟩ := ht
  obtain ⟨job', hjob', henv, hsource', hcopied'⟩ := h job hjob
  exact ⟨job', hjob', by rw [← hpath, OpenJob.base, OpenJob.base, OpenJob.fid, OpenJob.fid, henv],
    hcopied' hcopied, by rw [hsource, hsource']⟩

theorem GoesOn.wholeCopy {σ' : Requests} {path : List Name} {t : FileSystem Name ByteArray}
    (h : GoesOn σ.opens σ'.opens) (ht : WholeCopy g σ path t) : WholeCopy g σ' path t := by
  obtain ⟨job, hjob, hpath, hsource⟩ := ht
  obtain ⟨job', hjob', henv, hsource', -⟩ := h job hjob
  exact ⟨job', hjob', by rw [← hpath, OpenJob.base, OpenJob.base, OpenJob.fid, OpenJob.fid, henv],
    by rw [hsource, hsource']⟩

theorem GoesOn.set {opens : List OpenJob} {i : Nat} {job job' : OpenJob}
    (hi : opens[i]? = some job) (henv : job'.env = job.env) (hsource : job'.source = job.source)
    (hcopied : job.Copied → job'.Copied) : GoesOn opens (opens.set i job') := by
  intro job₂ hmem
  obtain ⟨j, hj⟩ := List.mem_iff_getElem?.mp hmem
  by_cases hij : i = j
  · subst hij
    obtain rfl := Option.some.inj (hi.symm.trans hj)
    have hlen := (List.getElem?_eq_some_iff.mp hi).1
    exact ⟨job', List.mem_iff_getElem?.mpr ⟨i, by simp [hlen]⟩, henv, hsource, hcopied⟩
  · exact ⟨job₂, List.mem_iff_getElem?.mpr ⟨j, by rw [List.getElem?_set_ne hij, hj]⟩, rfl, rfl, id⟩

/-- What a list holds after one of its elements is set. -/
theorem getElem?_set_cases {α : Type} {l : List α} {i j : Nat} {a b : α}
    (h : (l.set i a)[j]? = some b) : (i = j ∧ b = a) ∨ (i ≠ j ∧ l[j]? = some b) := by
  by_cases hij : i = j
  · subst hij
    rw [List.getElem?_set_self'] at h
    obtain ⟨-, -, rfl⟩ := Option.map_eq_some_iff.mp h
    exact .inl ⟨rfl, rfl⟩
  · rw [List.getElem?_set_ne hij] at h
    exact .inr ⟨hij, h⟩

/-! ## §4. What the steps keep. -/

theorem OpenJob.Ok.frame {job : OpenJob} {fs fs' : Files} (h : job.Ok g fs)
    (hdirs : KeepsDirs fs fs')
    (hsame : job.copy.isSome → sub fs' (job.base g) = sub fs (job.base g)) : job.Ok g fs' := by
  intro c hc
  obtain ⟨hdir, hcopy⟩ := h c hc
  refine ⟨hdirs.isDir hdir, ?_⟩
  rwa [hsame (by rw [Option.mem_def.mp hc]; rfl)]

theorem SessionJob.Ok.frame {job : SessionJob} {opens opens' : List OpenJob} {fs fs' : Files}
    (h : job.Ok g opens fs) (hdirs : KeepsDirs fs fs') (hopens : GoesOn opens opens')
    (hsame : job.copy.isSome → sub fs' (job.work g) = sub fs (job.work g)) :
    job.Ok g opens' fs' := by
  intro c hc
  obtain ⟨hdir, hbase, hcopy⟩ := h c hc
  refine ⟨hdirs.isDir hdir, hopens.publishedAs hbase, ?_⟩
  rwa [hsame (by rw [Option.mem_def.mp hc]; rfl)]

/-- **An open takes a step**: it touches no base but its own, and no workspace. -/
theorem Inv.setOpen {job job' : OpenJob} {disk : Disk Name ByteArray} (h : Inv g σ)
    (hi : σ.opens[i]? = some job) (henv : job'.env = job.env) (hsource : job'.source = job.source)
    (hcopied : job.Copied → job'.Copied) (hdirs : KeepsDirs σ.disk.fs disk.fs)
    (hclosed : Closed disk.fs)
    (hothers : ∀ (j : Nat) (job₂ : OpenJob), i ≠ j → σ.opens[j]? = some job₂ →
      job₂.copy.isSome → sub disk.fs (job₂.base g) = sub σ.disk.fs (job₂.base g))
    (hworks : ∀ job₂ : SessionJob, sub disk.fs (job₂.work g) = sub σ.disk.fs (job₂.work g))
    (hok : job'.Ok g disk.fs)
    (hmaker : job'.copy.isSome → ∀ (j : Nat) (job₂ : OpenJob), i ≠ j →
      σ.opens[j]? = some job₂ → job₂.copy.isSome → job₂.fid g ≠ job.fid g) :
    Inv g { σ with disk, opens := σ.opens.set i job' } := by
  have hgoes : GoesOn σ.opens (σ.opens.set i job') := .set hi henv hsource hcopied
  have hfid : job'.fid g = job.fid g := by rw [OpenJob.fid, OpenJob.fid, henv]
  refine
    { returned := fun o ho => GoesOn.wholeCopy hgoes (h.returned o ho)
      created := fun s hs =>
        ⟨GoesOn.wholeCopy hgoes (h.created s hs).1, (h.created s hs).2⟩
      env := hdirs.isDir h.env
      overlay := hdirs.isDir h.overlay
      closed := hclosed
      opens := fun job₂ hmem => ?_
      makers := fun j k job₂ job₃ hj hk hc hc' hfids => ?_
      sessions := fun job₂ hmem => (h.sessions job₂ hmem).frame hdirs hgoes fun _ => hworks job₂
      copiers := h.copiers }
  · -- The open that took the step is as claimed, the other ones are framed.
    obtain ⟨j, hj⟩ := List.mem_iff_getElem?.mp hmem
    rcases getElem?_set_cases hj with ⟨-, rfl⟩ | ⟨hij, hj⟩
    · exact hok
    · exact (h.opens job₂ (List.mem_of_getElem? hj)).frame hdirs (hothers j job₂ hij hj)
  · rcases getElem?_set_cases hj with ⟨rfl, rfl⟩ | ⟨hij, hj'⟩
    · rcases getElem?_set_cases hk with ⟨rfl, -⟩ | ⟨hik, hk⟩
      · rfl
      · exact absurd (hfids.symm.trans hfid) (hmaker hc k job₃ hik hk hc')
    · rcases getElem?_set_cases hk with ⟨rfl, rfl⟩ | ⟨-, hk'⟩
      · exact absurd (hfids.trans hfid) (hmaker hc' j job₂ hij hj' hc)
      · exact h.makers j k job₂ job₃ hj' hk' hc hc' hfids

/-- **A new session takes a step**: it touches no workspace but its own, and no base. -/
theorem Inv.setSession {job job' : SessionJob} {disk : Disk Name ByteArray}
    (h : Inv g σ) (huuid : job'.uuid = job.uuid)
    (hdirs : KeepsDirs σ.disk.fs disk.fs) (hclosed : Closed disk.fs)
    (hothers : ∀ (j : Nat) (job₂ : SessionJob), i ≠ j → σ.sessions[j]? = some job₂ →
      job₂.copy.isSome → sub disk.fs (job₂.work g) = sub σ.disk.fs (job₂.work g))
    (hbases : ∀ job₂ : OpenJob, sub disk.fs (job₂.base g) = sub σ.disk.fs (job₂.base g))
    (hok : job'.Ok g σ.opens disk.fs)
    (hcopier : job'.copy.isSome → ∀ (j : Nat) (job₂ : SessionJob), i ≠ j →
      σ.sessions[j]? = some job₂ → job₂.copy.isSome →
        job₂.uuid.sessionId ≠ job.uuid.sessionId) :
    Inv g { σ with disk, sessions := σ.sessions.set i job' } := by
  have hgoes : GoesOn σ.opens σ.opens := fun job₂ hmem => ⟨job₂, hmem, rfl, rfl, id⟩
  have hid : job'.uuid.sessionId = job.uuid.sessionId := by rw [huuid]
  refine
    { returned := h.returned
      created := h.created
      env := hdirs.isDir h.env
      overlay := hdirs.isDir h.overlay
      closed := hclosed
      opens := fun job₂ hmem => (h.opens job₂ hmem).frame hdirs fun _ => hbases job₂
      makers := h.makers
      sessions := fun job₂ hmem => ?_
      copiers := fun j k job₂ job₃ hj hk hc hc' hids => ?_ }
  · -- The job that took the step is as claimed, the other ones are framed.
    obtain ⟨j, hj⟩ := List.mem_iff_getElem?.mp hmem
    rcases getElem?_set_cases hj with ⟨-, rfl⟩ | ⟨hij, hj⟩
    · exact hok
    · exact (h.sessions job₂ (List.mem_of_getElem? hj)).frame hdirs hgoes (hothers j job₂ hij hj)
  · rcases getElem?_set_cases hj with ⟨rfl, rfl⟩ | ⟨hij, hj'⟩
    · rcases getElem?_set_cases hk with ⟨rfl, -⟩ | ⟨hik, hk⟩
      · rfl
      · exact absurd (hids.symm.trans hid) (hcopier hc k job₃ hik hk hc')
    · rcases getElem?_set_cases hk with ⟨rfl, rfl⟩ | ⟨-, hk'⟩
      · exact absurd (hids.trans hid) (hcopier hc' j job₂ hij hj' hc)
      · exact h.copiers j k job₂ job₃ hj' hk' hc hc' hids

/-- What a list holds after one more element. -/
theorem getElem?_concat_cases {α : Type} {l : List α} {j : Nat} {a b : α}
    (h : (l ++ [a])[j]? = some b) : l[j]? = some b ∨ b = a := by
  rcases List.mem_append.mp (List.mem_of_getElem? h) with hmem | hmem
  · by_cases hj : j < l.length
    · exact .inl (by rwa [List.getElem?_append_left hj] at h)
    · rw [List.getElem?_append_right (by omega)] at h
      exact .inr (List.mem_singleton.mp (List.mem_of_getElem? h))
  · exact .inr (List.mem_singleton.mp hmem)

/-- An open that has not begun to copy. -/
theorem Inv.addOpen {job : OpenJob} (h : Inv g σ) (hcopy : job.copy = none) :
    Inv g { σ with opens := σ.opens ++ [job] } := by
  have hgoes : GoesOn σ.opens (σ.opens ++ [job]) :=
    fun job₂ hmem => ⟨job₂, List.mem_append_left _ hmem, rfl, rfl, id⟩
  -- A job with a copy is an old one, at its old place.
  have hnot : ∀ {j : Nat} {job₂ : OpenJob}, (σ.opens ++ [job])[j]? = some job₂ →
      job₂.copy.isSome → σ.opens[j]? = some job₂ := by
    intro j job₂ hj hc
    rcases getElem?_concat_cases hj with hj | rfl
    · exact hj
    · rw [hcopy] at hc
      cases hc
  refine
    { h with
      returned := fun o ho => GoesOn.wholeCopy hgoes (h.returned o ho)
      created := fun s hs => ⟨GoesOn.wholeCopy hgoes (h.created s hs).1, (h.created s hs).2⟩
      opens := fun job₂ hmem => ?_
      makers := fun j k job₂ job₃ hj hk hc hc' =>
        h.makers j k job₂ job₃ (hnot hj hc) (hnot hk hc') hc hc'
      sessions := fun job₂ hmem =>
        (h.sessions job₂ hmem).frame (KeepsDirs.refl _) hgoes fun _ => rfl }
  rcases List.mem_append.mp hmem with hmem | hmem
  · exact h.opens job₂ hmem
  · intro c hc
    rw [List.mem_singleton.mp hmem, hcopy] at hc
    cases hc

/-- A new session that has not begun to copy. -/
theorem Inv.addSession {job : SessionJob} (h : Inv g σ) (hcopy : job.copy = none) :
    Inv g { σ with sessions := σ.sessions ++ [job] } := by
  have hnot : ∀ {j : Nat} {job₂ : SessionJob}, (σ.sessions ++ [job])[j]? = some job₂ →
      job₂.copy.isSome → σ.sessions[j]? = some job₂ := by
    intro j job₂ hj hc
    rcases getElem?_concat_cases hj with hj | rfl
    · exact hj
    · rw [hcopy] at hc
      cases hc
  refine
    { h with
      sessions := fun job₂ hmem => ?_
      copiers := fun j k job₂ job₃ hj hk hc hc' =>
        h.copiers j k job₂ job₃ (hnot hj hc) (hnot hk hc') hc hc' }
  rcases List.mem_append.mp hmem with hmem | hmem
  · exact h.sessions job₂ hmem
  · intro c hc
    rw [List.mem_singleton.mp hmem, hcopy] at hc
    cases hc

/-- What an open has copied does not change when it ends. -/
theorem Inv.endOpen {job : OpenJob} {disk : Disk Name ByteArray} (h : Inv g σ)
    (hi : σ.opens[i]? = some job) (hdirs : KeepsDirs σ.disk.fs disk.fs) (hclosed : Closed disk.fs)
    (hbases : ∀ job₂ : OpenJob, sub disk.fs (job₂.base g) = sub σ.disk.fs (job₂.base g))
    (hworks : ∀ job₂ : SessionJob, sub disk.fs (job₂.work g) = sub σ.disk.fs (job₂.work g)) :
    Inv g { σ with disk, opens := σ.opens.set i { job with ended := true } } := by
  refine h.setOpen hi rfl rfl id hdirs hclosed (fun j job₂ _ _ _ => hbases job₂) hworks
    ?_ fun hc j job₂ hij hj hc₂ hfid => ?_
  · exact (h.opens job (List.mem_of_getElem? hi)).frame hdirs fun _ => hbases job
  · exact hij (h.makers i j job job₂ hi hj hc hc₂ hfid.symm)

/-- What a new session has copied does not change when it ends. -/
theorem Inv.endSession {job : SessionJob} {disk : Disk Name ByteArray} (h : Inv g σ)
    (hi : σ.sessions[i]? = some job) (hdirs : KeepsDirs σ.disk.fs disk.fs)
    (hclosed : Closed disk.fs)
    (hbases : ∀ job₂ : OpenJob, sub disk.fs (job₂.base g) = sub σ.disk.fs (job₂.base g))
    (hworks : ∀ job₂ : SessionJob, sub disk.fs (job₂.work g) = sub σ.disk.fs (job₂.work g)) :
    Inv g { σ with disk, sessions := σ.sessions.set i { job with ended := true } } := by
  refine h.setSession rfl hdirs hclosed (fun j job₂ _ _ _ => hworks job₂) hbases
    ?_ fun hc j job₂ hij hj hc₂ hid => ?_
  · exact (h.sessions job (List.mem_of_getElem? hi)).frame hdirs
      (fun job₂ hmem => ⟨job₂, hmem, rfl, rfl, id⟩) fun _ => hworks job
  · exact hij (h.copiers i j job job₂ hi hj hc hc₂ hid.symm)

/-! ## §5. Opens. -/

theorem OpenJob.snapshotRoot_eq (job : OpenJob) :
    g.snapshotRoot (job.fid g) = g.envRoot ++ [(job.fid g).toList] :=
  snapshotRoot_digest _

/-- The directory of a snapshot is no base, and no workspace. -/
theorem base_not_above (job job' : OpenJob) : ¬ job.base g <+: g.snapshotRoot (job'.fid g) := by
  intro hpre
  have hlen := hpre.length_le
  rw [job.base_eq, job'.snapshotRoot_eq] at hlen
  simp only [List.length_append, List.length_cons, List.length_nil] at hlen
  omega

theorem work_not_above (job : SessionJob) (p : List Name) : ¬ job.work g <+: g.envRoot ++ p := by
  rw [job.work_eq]
  exact (env_apart_overlay p _).2

/-- What is made on the way to a base leaves the workspaces. -/
theorem work_below_base {fs fs' : Files} {p : List Name}
    (h : FileTree.mkdirs fs (g.envRoot ++ p) = some fs') (job : SessionJob) :
    sub fs' (job.work g) = sub fs (job.work g) :=
  mkdirs_sub_eq h (work_not_above job p)

theorem inv_openCheck {now : Timestamp} {payload : OpenEnvironmentRequest}
    {disk : String → Option Source} (h : Inv g σ)
    (hcareful : Careful g σ (.openCheck now payload disk)) :
    Inv g (openCheck g σ now payload disk) := by
  rcases openCheck_cases g σ now payload disk with hcase | ⟨env, source, ho, ⟨hbase, hcase⟩ | hcase⟩
  · rw [hcase]
    exact h
  · -- The base that is returned is published.
    rw [hcase]
    obtain ⟨job, hjob, hpath, hcopied⟩ := hcareful (env, source) ho hbase
    have htree := (h.published_tree ⟨job, hjob, hpath, hcopied, rfl⟩).1
    refine { h with returned := fun o hmem => ?_ }
    rcases List.mem_append.mp hmem with hmem | hmem
    · exact h.returned o hmem
    · rw [List.mem_singleton.mp hmem]
      exact ⟨job, hjob, hpath, htree⟩
  · rw [hcase]
    exact h.addOpen rfl

theorem inv_openCopytree (h : Inv g σ) : Inv g (openCopytree g σ i) := by
  rcases openCopytree_cases g σ i with
    hcase | ⟨job, hi, hcopy, ⟨disk, hdisk, hcase⟩ | ⟨made, disk, hmade, hdisk, hcase⟩⟩
  · rw [hcase]
    exact h
  · -- The open raises; it may have made the directory of the snapshot.
    rw [hcase]
    rcases hdisk with rfl | hdisk
    · exact h.endOpen hi (KeepsDirs.refl _) h.closed (fun _ => rfl) fun _ => rfl
    · have hmk := Disk.mkdirs_fs hdisk
      refine h.endOpen hi (mkdirs_keepsDirs hmk) (mkdirs_closed h.closed hmk)
        (fun job₂ => mkdirs_sub_eq hmk (base_not_above job₂ job)) fun job₂ => ?_
      rw [job.snapshotRoot_eq] at hmk
      exact work_below_base hmk job₂
  · -- The base is made: there was none, so no other open has made it.
    rw [hcase]
    have hmk := Disk.mkdirs_fs hmade
    obtain ⟨hnone, hmk'⟩ := Disk.makedirs_fs hdisk
    have hclosed := mkdirs_closed h.closed hmk
    have hnone' : σ.disk.fs (job.base g) = none := by
      rw [← mkdirs_elsewhere hmk (base_not_above job job)]
      exact hnone
    have hother : ∀ job₂ ∈ σ.opens, job₂.copy.isSome → job₂.fid g ≠ job.fid g := by
      intro job₂ hmem hc hfid
      obtain ⟨c, hc⟩ := Option.isSome_iff_exists.mp hc
      have hdir := (h.opens job₂ hmem c hc).1.self
      rw [OpenJob.base, hfid, ← OpenJob.base, hnone'] at hdir
      cases hdir
    refine h.setOpen hi rfl rfl ?_ ((mkdirs_keepsDirs hmk).trans (mkdirs_keepsDirs hmk'))
      (mkdirs_closed hclosed hmk') (fun j job₂ _ hj hc => ?_) (fun job₂ => ?_) ?_
      fun _ j job₂ _ hj => hother job₂ (List.mem_of_getElem? hj)
    · rintro ⟨c, hc, -⟩
      rw [hcopy] at hc
      cases hc
    · rw [mkdirs_sub_eq hmk' (bases_apart (hother job₂ (List.mem_of_getElem? hj) hc)).1,
        mkdirs_sub_eq hmk (base_not_above job₂ job)]
    · rw [job.snapshotRoot_eq] at hmk
      rw [job.base_eq] at hmk'
      rw [work_below_base hmk' job₂, work_below_base hmk job₂]
    · -- The copy begins with an empty directory.
      rintro c ⟨⟩
      have hdir := mkdirs_isDir hmk'
      refine ⟨hdir, fun _ => CopyOf.begin (p := []) job.source.closed job.source.root ?_ ?_⟩
      · rw [sub_apply, List.append_nil]
        exact hdir.self
      · intro a q
        show disk.fs (job.base g ++ a :: q) = none
        rw [mkdirs_elsewhere hmk' (below_not_above _ a q)]
        exact hclosed.below_none hnone a q

theorem inv_openEntry {q : List Name} {ok : Bool} (h : Inv g σ) :
    Inv g (openEntry g σ i q ok) := by
  rcases openEntry_cases g σ i q ok with
    hcase | ⟨job, c, hi, hcopy, hcase⟩
  · rw [hcase]
    exact h
  · rw [hcase]
    obtain ⟨hdir, hmade⟩ := h.opens job (List.mem_of_getElem? hi) c hcopy
    have hout : SameOutside (job.base g) σ.disk.fs
        (copyNext job.source.disk [] σ.disk (job.base g) c q ok).1.fs := copyNext_sameOutside hdir
    have hc : job.copy.isSome := by rw [hcopy]; rfl
    have hother : ∀ (j : Nat) (job₂ : OpenJob), i ≠ j → σ.opens[j]? = some job₂ →
        job₂.copy.isSome → job₂.fid g ≠ job.fid g := by
      intro j job₂ hij hj hc₂ hfid
      exact hij (h.makers i j job job₂ hi hj hc hc₂ hfid.symm)
    refine h.setOpen hi rfl rfl ?_ copyNext_keepsDirs (copyNext_closed h.closed)
      (fun j job₂ hij hj hc₂ => hout.sub_eq (bases_apart (hother j job₂ hij hj hc₂)).symm)
      (fun job₂ => hout.sub_eq (base_apart_work job job₂)) ?_
      fun _ j job₂ hij hj hc₂ => hother j job₂ hij hj hc₂
    · -- A copy that is over stays as it is.
      rintro ⟨c', hc', hpending, hfailed⟩
      obtain rfl := Option.some.inj (hcopy.symm.trans hc')
      rw [copyNext_of_nil hpending]
      exact ⟨c, rfl, hpending, hfailed⟩
    · rintro c' ⟨⟩
      refine ⟨copyNext_keepsDirs.isDir hdir, fun hok => ?_⟩
      exact copyNext_copyOf (p := []) hdir job.source.closed hmade hok

/-- The metadata file of a snapshot is in no base, and in no workspace. -/
theorem meta_apart_base (fid : String) (job : OpenJob) :
    Apart (g.envRoot ++ fid.toList :: ["meta.json".toList]) (job.base g) := by
  rw [job.base_eq]
  by_cases hfid : fid = job.fid g
  · rw [hfid]
    have hne : "meta.json".toList ≠ "base".toList := by decide
    simpa using apart_of_ne (g.envRoot ++ [(job.fid g).toList]) hne [] []
  · exact snapshots_apart hfid _ _

/-- The metadata file of a session is in no base, and in no workspace. -/
theorem meta_apart_work (sid : String) (job : SessionJob) :
    Apart (g.overlayRoot ++ sid.toList :: ["meta.json".toList]) (job.work g) := by
  rw [job.work_eq]
  by_cases hsid : sid = job.uuid.sessionId
  · rw [hsid]
    have hne : "meta.json".toList ≠ "work".toList := by decide
    simpa using apart_of_ne (g.overlayRoot ++ [job.uuid.sessionId.toList]) hne [] []
  · exact overlays_apart hsid _ _

theorem inv_openReturn {ok : Bool} (h : Inv g σ) : Inv g (openReturn g σ i ok) := by
  rcases openReturn_cases g σ i ok with
    hcase | ⟨job, hi, hcase | ⟨disk, hcopied, hdisk, hcase⟩⟩
  · rw [hcase]
    exact h
  · rw [hcase]
    exact h.endOpen hi (KeepsDirs.refl _) h.closed (fun _ => rfl) fun _ => rfl
  · rw [hcase]
    have hw := Disk.write_fs hdisk
    rw [job.snapshotRoot_eq, List.append_assoc] at hw
    have hout := write_sameOutside hw
    have hbases : ∀ job₂ : OpenJob, sub disk.fs (job₂.base g) = sub σ.disk.fs (job₂.base g) :=
      fun job₂ => hout.sub_eq (meta_apart_base _ job₂)
    have hworks : ∀ job₂ : SessionJob, sub disk.fs (job₂.work g) = sub σ.disk.fs (job₂.work g) :=
      fun job₂ => hout.sub_eq (env_apart_overlay _ _ |> (job₂.work_eq ▸ ·))
    have hnext := h.endOpen hi (write_keepsDirs hw) (write_closed h.closed hw) hbases hworks
    have hmem : { job with ended := true } ∈ σ.opens.set i { job with ended := true } :=
      List.mem_set (List.getElem?_eq_some_iff.mp hi).1 _
    -- The base that is returned was copied whole.
    have htree := (hnext.published_tree ⟨_, hmem, rfl, hcopied, rfl⟩).1
    refine { hnext with returned := fun o ho => ?_ }
    rcases List.mem_append.mp ho with ho | ho
    · exact hnext.returned o ho
    · rw [List.mem_singleton.mp ho]
      exact ⟨_, hmem, rfl, htree⟩

/-! ## §6. New sessions. -/

theorem inv_sessionCopytree (h : Inv g σ) (hcareful : Careful g σ (.sessionCopytree i)) :
    Inv g (sessionCopytree g σ i) := by
  rcases sessionCopytree_cases g σ i with
    hcase | ⟨job, hi, hended, hcopy, hcase | ⟨disk, hdir, hdisk, hcase⟩⟩
  · rw [hcase]
    exact h
  · rw [hcase]
    exact h.endSession hi (KeepsDirs.refl _) h.closed (fun _ => rfl) fun _ => rfl
  · rw [hcase]
    obtain ⟨hnone, hmk⟩ := Disk.makedirs_fs hdisk
    have hclosed := mkdirs_closed h.closed hmk
    have hother : ∀ job₂ ∈ σ.sessions, job₂.copy.isSome →
        job₂.uuid.sessionId ≠ job.uuid.sessionId := by
      intro job₂ hmem hc hid
      obtain ⟨c, hc⟩ := Option.isSome_iff_exists.mp hc
      have hwork := (h.sessions job₂ hmem c hc).1.self
      rw [SessionJob.work, hid, ← SessionJob.work, hnone] at hwork
      cases hwork
    -- The base that is copied is published, and whole.
    obtain ⟨maker, hmaker, hpath, hcopied⟩ := hcareful job hi hended (by rw [hcopy]; rfl)
      (by rw [hdir]; rfl)
    obtain ⟨htree, hsource⟩ := h.published_tree ⟨maker, hmaker, hpath, hcopied, rfl⟩
    refine h.setSession rfl (mkdirs_keepsDirs hmk) hclosed (fun j job₂ _ hj hc => ?_)
      (fun job₂ => mkdirs_sub_eq hmk (base_apart_work job₂ job).1) ?_
      fun _ j job₂ _ hj => hother job₂ (List.mem_of_getElem? hj)
    · have hids := hother job₂ (List.mem_of_getElem? hj) hc
      exact mkdirs_sub_eq hmk (works_apart hids).1
    · rintro c ⟨⟩
      have hwork := mkdirs_isDir hmk
      refine ⟨hwork, ⟨maker, hmaker, hpath, hcopied, htree⟩, fun _ => ?_⟩
      refine CopyOf.begin (htree ▸ hsource) hdir ?_ fun a q => ?_
      · rw [sub_apply, List.append_nil]
        exact hwork.self
      · show disk.fs (job.work g ++ a :: q) = none
        rw [mkdirs_elsewhere hmk (below_not_above _ a q)]
        exact h.closed.below_none hnone a q

theorem inv_sessionEntry {q : List Name} {ok : Bool} (h : Inv g σ) :
    Inv g (sessionEntry g σ i q ok) := by
  rcases sessionEntry_cases g σ i q ok with
    hcase | ⟨job, c, hi, hcopy, hcase⟩
  · rw [hcase]
    exact h
  · rw [hcase]
    obtain ⟨hdir, hbase, hmade⟩ := h.sessions job (List.mem_of_getElem? hi) c hcopy
    obtain ⟨htree, hsource⟩ := h.published_tree hbase
    have hout : SameOutside (job.work g) σ.disk.fs
        (copyNext σ.disk (g.basePath job.fid) σ.disk (job.work g) c q ok).1.fs :=
      copyNext_sameOutside hdir
    have hc : job.copy.isSome := by rw [hcopy]; rfl
    have hother : ∀ (j : Nat) (job₂ : SessionJob), i ≠ j → σ.sessions[j]? = some job₂ →
        job₂.copy.isSome → job₂.uuid.sessionId ≠ job.uuid.sessionId := by
      intro j job₂ hij hj hc₂ hid
      exact hij (h.copiers i j job job₂ hi hj hc hc₂ hid.symm)
    refine h.setSession rfl copyNext_keepsDirs (copyNext_closed h.closed)
      (fun j job₂ hij hj hc₂ => hout.sub_eq (works_apart (hother j job₂ hij hj hc₂)).symm)
      (fun job₂ => hout.sub_eq (base_apart_work job₂ job).symm) ?_
      fun _ j job₂ hij hj hc₂ => hother j job₂ hij hj hc₂
    rintro c' ⟨⟩
    refine ⟨copyNext_keepsDirs.isDir hdir, hbase, fun hok => ?_⟩
    rw [← htree] at hmade hsource ⊢
    exact copyNext_copyOf hdir hsource hmade hok

theorem inv_sessionReturn {ok : Bool} (h : Inv g σ) : Inv g (sessionReturn g σ i ok) := by
  rcases sessionReturn_cases g σ i ok with
    hcase | ⟨job, hi, hcase | ⟨c, disk, content, hcopy, ⟨hpending, hfailed⟩, hdisk, hcase⟩⟩
  · rw [hcase]
    exact h
  · rw [hcase]
    exact h.endSession hi (KeepsDirs.refl _) h.closed (fun _ => rfl) fun _ => rfl
  · rw [hcase]
    have hw := Disk.write_fs hdisk
    rw [List.append_assoc] at hw
    have hout := write_sameOutside hw
    have hbases : ∀ job₂ : OpenJob, sub disk.fs (job₂.base g) = sub σ.disk.fs (job₂.base g) := by
      intro job₂
      rw [job₂.base_eq]
      exact hout.sub_eq (env_apart_overlay _ _).symm
    have hworks : ∀ job₂ : SessionJob, sub disk.fs (job₂.work g) = sub σ.disk.fs (job₂.work g) :=
      fun job₂ => hout.sub_eq (meta_apart_work _ job₂)
    have hnext := h.endSession hi (write_keepsDirs hw) (write_closed h.closed hw) hbases hworks
    obtain ⟨-, hbase, hmade⟩ := h.sessions job (List.mem_of_getElem? hi) c hcopy
    have hcopied := hmade hfailed
    rw [hpending] at hcopied
    -- The workspace has come to every entry of the base.
    refine { hnext with created := fun s hs => ?_ }
    rcases List.mem_append.mp hs with hs | hs
    · exact hnext.created s hs
    · rw [List.mem_singleton.mp hs]
      obtain ⟨maker, hmaker, hpath, -, htree⟩ := hbase
      exact ⟨⟨maker, hmaker, hpath, htree⟩, (hworks job).trans hcopied.whole⟩

/-! ## §7. Runs. -/

/-- **What one step keeps.** -/
theorem inv_step (a : RequestStep) (h : Inv g σ) (hcareful : Careful g σ a) :
    Inv g (a.step g σ) := by
  cases a with
  | openCheck now payload disk => exact inv_openCheck h hcareful
  | openCopytree i => exact inv_openCopytree h
  | openEntry i q ok => exact inv_openEntry h
  | openReturn i ok => exact inv_openReturn h
  | openDies i =>
      show Inv g (openDies σ i)
      unfold openDies
      cases hi : σ.opens[i]? with
      | none => exact h
      | some job => exact h.endOpen hi (KeepsDirs.refl _) h.closed (fun _ => rfl) fun _ => rfl
  | sessionCheck fid uuid =>
      show Inv g (sessionCheck g σ fid uuid)
      unfold sessionCheck
      split
      · exact h.addSession rfl
      · exact h
  | sessionCopytree i => exact inv_sessionCopytree h hcareful
  | sessionEntry i q ok => exact inv_sessionEntry h
  | sessionReturn i ok => exact inv_sessionReturn h
  | sessionDies i =>
      show Inv g (sessionDies σ i)
      unfold sessionDies
      cases hi : σ.sessions[i]? with
      | none => exact h
      | some job => exact h.endSession hi (KeepsDirs.refl _) h.closed (fun _ => rfl) fun _ => rfl

theorem inv_fresh : Inv g (.fresh g) where
  returned _ ho := by cases ho
  created _ hs := by cases hs
  env := (fresh_started g).env
  overlay := (fresh_started g).overlay
  closed := by
    intro q a hq
    simp only [Requests.fresh, GatewayState.fresh] at hq ⊢
    split at hq
    next hpre =>
      have hq' : q <+: g.envRoot ∨ q <+: g.overlayRoot :=
        hpre.imp (List.prefix_append q [a]).trans (List.prefix_append q [a]).trans
      rw [if_pos hq']
    · cases hq
  opens _ hjob := by cases hjob
  makers _ _ _ _ hi := by cases hi
  sessions _ hjob := by cases hjob
  copiers _ _ _ _ hi := by cases hi

end

/-- **Where publication is atomic**: in the runs none of whose checks takes a base for
whole while its copy is under way, or after a file of it has failed. -/
theorem publication_atomic (g : GatewayConfig) (as : List RequestStep)
    (h : Meets (RequestStep.step g) (Careful g) (.fresh g) as) :
    ∀ pre, pre <+: as → AtomicPublication g (run (RequestStep.step g) (.fresh g) pre) := by
  intro pre hpre
  have hinv := h.invariant (P := Inv g) (fun _ a hs hc => inv_step a hs hc) inv_fresh pre hpre
  exact hinv.toAtomicPublication

/-- Opens that take turns. -/
theorem publication_atomic_inTurn :
    AtomicPublication Scripted.store
      (run (RequestStep.step Scripted.store) (.fresh Scripted.store) Scripted.inTurn) :=
  publication_atomic Scripted.store Scripted.inTurn (by decide +kernel) Scripted.inTurn
    (List.prefix_refl _)

/-- **An open that fails midway, and the next one**, which returns what was copied. -/
theorem publication_atomic_fails :
    ¬ AtomicPublication Scripted.store
      (run (RequestStep.step Scripted.store) (.fresh Scripted.store) Scripted.midway) := by
  intro h
  have hpartial : ∃ o ∈ (run (RequestStep.step Scripted.store) (.fresh Scripted.store)
      Scripted.midway).returned, ∀ job ∈ (run (RequestStep.step Scripted.store)
        (.fresh Scripted.store) Scripted.midway).opens,
      (o.base ["Main.lean".toList]).isSome ≠
        (job.source.disk.fs ["Main.lean".toList]).isSome := by decide +kernel
  obtain ⟨o, ho, hdiffer⟩ := hpartial
  obtain ⟨job, hjob, -, htree⟩ := h.returned o ho
  exact hdiffer job hjob (by rw [htree])

end Gateway

end ObligationRuntime
