/-
  ObligationRuntime.Guarantees.Isolation — snapshots and overlays are isolated.

  Each request stays in a directory of its own: an open in the one of its fingerprint, a
  new session in the one of its session id, a patch in its session's workspace.  The
  directories lie apart, so nothing else is touched, and patches of different sessions
  commute.

  Main results:
    * `separate_step` — what one request keeps,
    * `base_step` — no request touches a base that is there,
    * `isolated` — snapshots and overlays are isolated in every run.
-/
import ObligationRuntime.Gateway.Environment
import ObligationRuntime.Lib.Transition

namespace ObligationRuntime

open Py Posix Flow FileTree Transition

namespace Gateway

/-! ## §1. What isolation is. -/

/-- A gateway that starts: its two directories are there, and no overlay is. -/
structure Started (g : GatewayConfig) (σ : GatewayState) : Prop where
  env : IsDir σ.fs g.envRoot
  overlay : IsDir σ.fs g.overlayRoot
  noOverlay : ∀ name p, σ.fs (g.overlayRoot ++ name :: p) = none
  noSession : ∀ sid, σ.sessions sid = none
  noId : σ.generated = []

/-- **Snapshots and overlays are isolated** in a run. -/
structure Isolated (g : GatewayConfig) (σ : GatewayState) (as : List GatewayAction) : Prop where
  /-- A base never changes once it is there. -/
  base : ∀ pre mid post b, as = pre ++ (mid ++ post) →
    let path := g.basePath (g.sha.hexdigest b)
    ((run (GatewayAction.step g) σ pre).fs path).isSome →
    sub (run (GatewayAction.step g) σ (pre ++ mid)).fs path =
      sub (run (GatewayAction.step g) σ pre).fs path
  /-- A workspace starts equal to the base of its snapshot. -/
  workspace : ∀ pre post fid uuid copied r, as = pre ++ .createSession fid uuid copied :: post →
    (createSession g (run (GatewayAction.step g) σ pre) fid uuid copied).2 = .ok r →
    sub (run (GatewayAction.step g) σ (pre ++ [.createSession fid uuid copied])).fs
        (g.workPath r.sessionId) =
      sub (run (GatewayAction.step g) σ pre).fs (g.basePath fid)
  /-- A patch changes nothing but below its session's workspace. -/
  confined : ∀ pre post sid files, as = pre ++ .applyPatch sid files :: post →
    ∀ q, (∀ lease, (run (GatewayAction.step g) σ pre).sessions sid = some lease →
        ¬ lease.workspacePath <+: q) →
      (run (GatewayAction.step g) σ (pre ++ [.applyPatch sid files])).fs q =
        (run (GatewayAction.step g) σ pre).fs q
  /-- Patches of different sessions commute, with the same answers. -/
  commute : ∀ pre, pre <+: as → ∀ sid sid' files files', sid ≠ sid' →
    let τ := run (GatewayAction.step g) σ pre
    let τ₁ := (applyPatchRoute τ sid files).1
    let τ₂ := (applyPatchRoute τ sid' files').1
    (applyPatchRoute τ₁ sid' files').1 = (applyPatchRoute τ₂ sid files).1 ∧
      (applyPatchRoute τ₁ sid' files').2 = (applyPatchRoute τ sid' files').2 ∧
      (applyPatchRoute τ₂ sid files).2 = (applyPatchRoute τ sid files).2

/-! ## §2. What one request keeps. -/

/-- A session id that is generated is new. -/
def FreshId (σ : GatewayState) (a : GatewayAction) : Prop := ∀ id ∈ a.newId, id ∉ σ.generated

/-- The invariant. -/
structure Separate (g : GatewayConfig) (σ : GatewayState) : Prop where
  env : IsDir σ.fs g.envRoot
  overlay : IsDir σ.fs g.overlayRoot
  unused : ∀ uuid : Uuid, uuid.sessionId ∉ σ.generated →
    ∀ p, σ.fs (g.overlayRoot ++ uuid.sessionId.toList :: p) = none
  leases : ∀ sid lease, σ.sessions sid = some lease →
    lease.workspacePath = g.workPath sid ∧ IsDir σ.fs (g.workPath sid)

section

variable {g : GatewayConfig} {σ : GatewayState}

/-- What changes in the directory of a snapshot leaves the overlays. -/
theorem Separate.snapshot {fs : Files} {fid : String} (h : Separate g σ)
    (hout : SameOutside (g.envRoot ++ [fid.toList]) σ.fs fs) : Separate g { σ with fs } where
  env := hout.isDir (below_not_above _ _ _) h.env
  overlay := hout.isDir (by simpa using (env_apart_overlay [fid.toList] []).1) h.overlay
  unused uuid hnew p := by
    have hsame := hout (g.overlayRoot ++ uuid.sessionId.toList :: p) (env_apart_overlay _ _).1
    exact hsame.trans (h.unused uuid hnew p)
  leases sid lease hl := by
    obtain ⟨hpath, hdir⟩ := h.leases sid lease hl
    refine ⟨hpath, hout.isDir ?_ hdir⟩
    simpa [workPath_eq] using
      (env_apart_overlay [fid.toList] [sid.toList, "work".toList]).1

/-- A session whose id is new has no workspace yet. -/
theorem Separate.new_ne {uuid : Uuid} {sid : String} (h : Separate g σ)
    (hnew : uuid.sessionId ∉ σ.generated) (hdir : IsDir σ.fs (g.workPath sid)) :
    uuid.sessionId ≠ sid := by
  rintro rfl
  have hnone := h.unused uuid hnew ["work".toList]
  have hsome := hdir.self
  rw [workPath_eq] at hsome
  cases hnone.symm.trans hsome

/-- What changes in the directory of a new session leaves the others. -/
theorem Separate.session {fs : Files} {uuid : Uuid} (h : Separate g σ)
    (hnew : uuid.sessionId ∉ σ.generated)
    (hout : SameOutside (g.overlayRoot ++ [uuid.sessionId.toList]) σ.fs fs) :
    Separate g { σ with fs, generated := σ.generated ++ [uuid.sessionId] } where
  env := hout.isDir (by simpa using (env_apart_overlay (g := g) [] [uuid.sessionId.toList]).2) h.env
  overlay := hout.isDir (below_not_above _ _ _) h.overlay
  unused uuid' hnew' p := by
    have hne : uuid.sessionId ≠ uuid'.sessionId := by
      intro e
      exact hnew' (List.mem_append_right _ (by simp [e]))
    have hold : uuid'.sessionId ∉ σ.generated := fun hmem => hnew' (List.mem_append_left _ hmem)
    have hsame := hout (g.overlayRoot ++ uuid'.sessionId.toList :: p) (overlays_apart hne [] p).1
    exact hsame.trans (h.unused uuid' hold p)
  leases sid lease hl := by
    obtain ⟨hpath, hdir⟩ := h.leases sid lease hl
    refine ⟨hpath, hout.isDir ?_ hdir⟩
    rw [workPath_eq]
    exact (overlays_apart (h.new_ne hnew hdir) [] ["work".toList]).1

/-- A session is registered once its workspace is there. -/
theorem Separate.registered {sid fid : String} (h : Separate g σ)
    (hdir : IsDir σ.fs (g.workPath sid)) :
    Separate g { σ with
      sessions := Function.update σ.sessions sid (some ⟨sid, fid, g.workPath sid⟩) } where
  env := h.env
  overlay := h.overlay
  unused := h.unused
  leases sid' lease hl := by
    by_cases hs : sid' = sid
    · subst hs
      simp only [Function.update_self] at hl
      obtain rfl := Option.some.inj hl
      exact ⟨rfl, hdir⟩
    · simp only [Function.update_of_ne hs] at hl
      exact h.leases sid' lease hl

/-- The workspaces of two sessions lie apart. -/
theorem works_apart {sid sid' : String} (h : sid ≠ sid') :
    Apart (g.workPath sid) (g.workPath sid') := by
  rw [workPath_eq, workPath_eq]
  exact overlays_apart h _ _

/-- What changes in a workspace leaves the others. -/
theorem Separate.patched {fs : Files} {sid : String} (h : Separate g σ)
    (hold : IsDir σ.fs (g.workPath sid)) (hout : SameOutside (g.workPath sid) σ.fs fs)
    (hdir : IsDir fs (g.workPath sid)) : Separate g { σ with fs } where
  env := by
    refine hout.isDir ?_ h.env
    rw [workPath_eq]
    simpa using (env_apart_overlay (g := g) [] [sid.toList, "work".toList]).2
  overlay := by
    refine hout.isDir ?_ h.overlay
    rw [workPath_eq]
    exact below_not_above _ _ _
  unused uuid hnew p := by
    refine (hout _ fun hpre => ?_).trans (h.unused uuid hnew p)
    -- The workspace is another session's.
    rw [workPath_eq] at hpre
    exact (overlays_apart (h.new_ne hnew hold).symm ["work".toList] p).1 hpre
  leases sid' lease hl := by
    obtain ⟨hpath, hdir'⟩ := h.leases sid' lease hl
    refine ⟨hpath, ?_⟩
    by_cases hs : sid = sid'
    · rw [← hs]
      exact hdir
    · exact hout.isDir (works_apart hs).1 hdir'

/-- What an open leaves: the gateway, or one whose snapshot of the fingerprint was
ensured. -/
theorem openEnvironment_cases (now : Timestamp) (payload : OpenEnvironmentRequest)
    (disk : String → Option Repo) (copied : Copied) :
    (openEnvironment g σ now payload disk copied).1 = σ ∨
      ∃ env repo, (openEnvironment g σ now payload disk copied).1 =
        { σ with fs := (ensureSnapshot g σ.fs env repo copied).1 } := by
  unfold openEnvironment
  split
  · exact .inl rfl
  next repo hrepo =>
    split
    · exact .inl rfl
    next env henv =>
      refine .inr ⟨env, repo, ?_⟩
      split
      next fs e h => rw [h]
      next fs h => rw [h]

/-- What a new session leaves: the gateway, or one whose files changed in the session's
directory, with the session or without. -/
theorem createSession_cases (fid : String) (uuid : Uuid) (copied : Copied) (h : Separate g σ) :
    (createSession g σ fid uuid copied).1 = σ ∨
      ∃ fs, SameOutside (g.overlayRoot ++ [uuid.sessionId.toList]) σ.fs fs ∧
        ((createSession g σ fid uuid copied).1 =
            { σ with fs, generated := σ.generated ++ [uuid.sessionId] } ∨
          ((createSession g σ fid uuid copied).1 =
              { σ with
                fs
                generated := σ.generated ++ [uuid.sessionId]
                sessions := Function.update σ.sessions uuid.sessionId
                  (some ⟨uuid.sessionId, fid, g.workPath uuid.sessionId⟩) } ∧
            IsDir fs (g.workPath uuid.sessionId))) := by
  unfold createSession
  split
  · exact .inl rfl
  · refine .inr ?_
    simp only
    split
    · exact ⟨σ.fs, SameOutside.refl _ _, .inl rfl⟩
    next base hbase =>
      -- The overlay may fail midway; what it wrote until then is in its own directory.
      obtain ⟨hout, hok⟩ := createOverlay_cases fid base uuid copied h.overlay
      split
      next fs e hfs =>
        rw [hfs] at hout
        exact ⟨fs, hout, .inl rfl⟩
      next fs hfs =>
        rw [hfs] at hout hok
        exact ⟨fs, hout, .inr ⟨rfl, (hok rfl).2⟩⟩

/-- What a patch leaves, in a session. -/
theorem applyPatchRoute_eq {sid : String} {files : Patch} {lease : Lease}
    (hl : σ.sessions sid = some lease) :
    applyPatchRoute σ sid files =
      ({ σ with fs := (applyPatchFiles lease.workspacePath sid files σ.fs).1 },
        (applyPatchFiles lease.workspacePath sid files σ.fs).2) := by
  simp [applyPatchRoute, hl]

/-- What a patch leaves, without a session. -/
theorem applyPatchRoute_none {sid : String} {files : Patch} (hl : σ.sessions sid = none) :
    applyPatchRoute σ sid files = (σ, .error (.apiError 404 "session_not_found")) := by
  simp [applyPatchRoute, hl]

/-- **What one request keeps.** -/
theorem separate_step (a : GatewayAction) (h : Separate g σ) (ha : FreshId σ a) :
    Separate g (a.step g σ) := by
  -- Each request writes below one directory, and the others are apart from it.
  cases a with
  | openEnvironment now payload disk copied =>
      rcases openEnvironment_cases (g := g) (σ := σ) now payload disk copied with hσ |
        ⟨env, repo, hσ⟩
      · rw [GatewayAction.step, hσ]
        exact h
      · rw [GatewayAction.step, hσ]
        rcases ensureSnapshot_cases copied env repo h.env with ⟨-, hsame⟩ | ⟨-, hout, -⟩
        · rw [hsame]
          exact h
        · exact h.snapshot hout
  | createSession fid uuid copied =>
      rcases createSession_cases fid uuid copied h with hσ | ⟨fs, hout, hσ | ⟨hσ, hdir⟩⟩
      · rw [GatewayAction.step, hσ]
        exact h
      · rw [GatewayAction.step, hσ]
        exact h.session (ha _ rfl) hout
      · rw [GatewayAction.step, hσ]
        exact (h.session (ha _ rfl) hout).registered hdir
  | applyPatch sid files =>
      cases hl : σ.sessions sid with
      | none =>
          rw [GatewayAction.step, applyPatchRoute_none hl]
          exact h
      | some lease =>
          obtain ⟨hpath, hdir⟩ := h.leases sid lease hl
          obtain ⟨opTree, hwithin⟩ := applyPatchFiles_within (g.workPath sid) sid files
          rw [GatewayAction.step, applyPatchRoute_eq hl, hpath]
          exact h.patched hdir (hwithin.sameOutside hdir) (hwithin.isDir hdir)

/-- **No request touches a base that is there.** -/
theorem base_step (a : GatewayAction) (h : Separate g σ) (b : ByteArray)
    (hbase : (σ.fs (g.basePath (g.sha.hexdigest b))).isSome) :
    sub (a.step g σ).fs (g.basePath (g.sha.hexdigest b)) =
      sub σ.fs (g.basePath (g.sha.hexdigest b)) := by
  have hpath := basePath_digest (g := g) b
  cases a with
  | openEnvironment now payload disk copied =>
      rcases openEnvironment_cases (g := g) (σ := σ) now payload disk copied with hσ |
        ⟨env, repo, hσ⟩
      · rw [GatewayAction.step, hσ]
      · rw [GatewayAction.step, hσ]
        rcases ensureSnapshot_cases copied env repo h.env with ⟨-, hsame⟩ | ⟨hnone, hout, -⟩
        · simp only [hsame]
        · -- The base that is made is another one.
          have hne : g.sha.hexdigest b ≠ fingerprintId g.sha env := by
            intro e
            rw [← e] at hnone
            rw [hnone] at hbase
            cases hbase
          exact other_base hne hout
  | createSession fid uuid copied =>
      -- The workspace is below the overlays, apart from every base.
      have hapart : Apart (g.overlayRoot ++ [uuid.sessionId.toList])
          (g.basePath (g.sha.hexdigest b)) := by
        rw [hpath]
        exact (env_apart_overlay _ _).symm
      rcases createSession_cases fid uuid copied h with hσ | ⟨fs, hout, hσ | ⟨hσ, -⟩⟩
      · rw [GatewayAction.step, hσ]
      · rw [GatewayAction.step, hσ]
        exact hout.sub_eq hapart
      · rw [GatewayAction.step, hσ]
        exact hout.sub_eq hapart
  | applyPatch sid files =>
      cases hl : σ.sessions sid with
      | none => rw [GatewayAction.step, applyPatchRoute_none hl]
      | some lease =>
          obtain ⟨hwork, hdir⟩ := h.leases sid lease hl
          obtain ⟨opTree, hwithin⟩ := applyPatchFiles_within (g.workPath sid) sid files
          rw [GatewayAction.step, applyPatchRoute_eq hl, hwork]
          refine (hwithin.sameOutside hdir).sub_eq ?_
          rw [hpath, workPath_eq]
          exact (env_apart_overlay _ _).symm

/-- A request generates no id but its own. -/
theorem generated_step (a : GatewayAction) (h : Separate g σ) :
    ∀ id ∈ (a.step g σ).generated, id ∈ σ.generated ∨ a.newId = some id := by
  intro id hid
  cases a with
  | openEnvironment now payload disk copied =>
      rcases openEnvironment_cases (g := g) (σ := σ) now payload disk copied with hσ |
        ⟨env, repo, hσ⟩
      · rw [GatewayAction.step, hσ] at hid
        exact .inl hid
      · rw [GatewayAction.step, hσ] at hid
        exact .inl hid
  | createSession fid uuid copied =>
      rcases createSession_cases fid uuid copied h with hσ | ⟨fs, -, hσ | ⟨hσ, -⟩⟩
      · rw [GatewayAction.step, hσ] at hid
        exact .inl hid
      · rw [GatewayAction.step, hσ] at hid
        simpa [GatewayAction.newId, eq_comm] using hid
      · rw [GatewayAction.step, hσ] at hid
        simpa [GatewayAction.newId, eq_comm] using hid
  | applyPatch sid files =>
      cases hl : σ.sessions sid with
      | none =>
          rw [GatewayAction.step, applyPatchRoute_none hl] at hid
          exact .inl hid
      | some lease =>
          rw [GatewayAction.step, applyPatchRoute_eq hl] at hid
          exact .inl hid

/-- Ids that are generated once are new. -/
theorem meets_freshId {as : List GatewayAction} (h : Separate g σ)
    (hnew : ∀ id ∈ as.filterMap GatewayAction.newId, id ∉ σ.generated)
    (hnodup : (as.filterMap GatewayAction.newId).Nodup) :
    Meets (GatewayAction.step g) FreshId σ as := by
  induction as generalizing σ with
  | nil => trivial
  | cons a as ih =>
      have ha : FreshId σ a := by
        intro id hid
        exact hnew id (List.mem_filterMap.mpr ⟨a, List.mem_cons_self .., hid⟩)
      refine ⟨ha, ih (separate_step a h ha) (fun id hid hgen => ?_) ?_⟩
      · rcases generated_step a h id hgen with hold | hown
        · refine hnew id ?_ hold
          obtain ⟨c, hc, hcid⟩ := List.mem_filterMap.mp hid
          exact List.mem_filterMap.mpr ⟨c, List.mem_cons_of_mem _ hc, hcid⟩
        · rw [List.filterMap_cons_some hown] at hnodup
          exact (List.nodup_cons.mp hnodup).1 hid
      · exact hnodup.sublist ((List.sublist_cons_self a as).filterMap _)

/-- The requests keep a base that is there. -/
theorem base_run {b : ByteArray} {as : List GatewayAction} (h : Separate g σ)
    (has : Meets (GatewayAction.step g) FreshId σ as)
    (hbase : (σ.fs (g.basePath (g.sha.hexdigest b))).isSome) :
    sub (run (GatewayAction.step g) σ as).fs (g.basePath (g.sha.hexdigest b)) =
      sub σ.fs (g.basePath (g.sha.hexdigest b)) := by
  induction as generalizing σ with
  | nil => rfl
  | cons a as ih =>
      obtain ⟨ha, hrest⟩ := has
      have hstep := base_step a h b hbase
      have hroot := congrFun hstep []
      simp only [sub_apply, List.append_nil] at hroot
      rw [run_cons, ih (separate_step a h ha) hrest (by rw [hroot]; exact hbase), hstep]

/-- A workspace starts equal to the base of its snapshot. -/
theorem workspace_step {fid : String} {uuid : Uuid} {copied : Copied}
    {r : CreateSessionResponse} (h : Separate g σ)
    (hr : (createSession g σ fid uuid copied).2 = .ok r) :
    sub (createSession g σ fid uuid copied).1.fs (g.workPath r.sessionId) =
      sub σ.fs (g.basePath fid) := by
  unfold createSession at hr ⊢
  split at hr
  · cases hr
  · rename_i hexists
    rw [if_neg hexists]
    simp only at hr ⊢
    split at hr
    · cases hr
    next base hbase =>
      obtain ⟨-, hok⟩ := createOverlay_cases fid base uuid copied h.overlay
      split at hr
      · cases hr
      next fs hfs =>
        obtain rfl := Except.ok.inj hr
        rw [hfs] at hok
        exact (hok rfl).1.trans (directoryAt_eq_some hbase)

/-- A patch changes nothing but below its session's workspace. -/
theorem patch_step {sid : String} {files : Patch} {q : List Name} (h : Separate g σ)
    (hq : ∀ lease, σ.sessions sid = some lease → ¬ lease.workspacePath <+: q) :
    (applyPatchRoute σ sid files).1.fs q = σ.fs q := by
  cases hl : σ.sessions sid with
  | none => rw [applyPatchRoute_none hl]
  | some lease =>
      obtain ⟨hwork, hdir⟩ := h.leases sid lease hl
      obtain ⟨opTree, hwithin⟩ := applyPatchFiles_within (g.workPath sid) sid files
      rw [applyPatchRoute_eq hl, hwork]
      exact hwithin.sameOutside hdir q (hwork ▸ hq lease hl)

/-- Patches of different sessions commute. -/
theorem patch_comm {sid sid' : String} (files files' : Patch) (h : Separate g σ)
    (hne : sid ≠ sid') :
    let τ₁ := (applyPatchRoute σ sid files).1
    let τ₂ := (applyPatchRoute σ sid' files').1
    (applyPatchRoute τ₁ sid' files').1 = (applyPatchRoute τ₂ sid files).1 ∧
      (applyPatchRoute τ₁ sid' files').2 = (applyPatchRoute σ sid' files').2 ∧
      (applyPatchRoute τ₂ sid files).2 = (applyPatchRoute σ sid files).2 := by
  intro τ₁ τ₂
  cases hl : σ.sessions sid with
  | none =>
      -- A session that is not there stays so, and its patch changes nothing.
      have h₁ : τ₁ = σ := by simp [τ₁, applyPatchRoute_none hl]
      have hl₂ : τ₂.sessions sid = none := by
        rw [← hl]
        cases hl' : σ.sessions sid' with
        | none => simp [τ₂, applyPatchRoute_none hl']
        | some lease' => simp [τ₂, applyPatchRoute_eq hl']
      rw [h₁, applyPatchRoute_none hl₂, applyPatchRoute_none hl]
      exact ⟨rfl, rfl, rfl⟩
  | some lease =>
      cases hl' : σ.sessions sid' with
      | none =>
          have h₂ : τ₂ = σ := by simp [τ₂, applyPatchRoute_none hl']
          have hl₁ : τ₁.sessions sid' = none := by
            rw [← hl']
            simp [τ₁, applyPatchRoute_eq hl]
          rw [h₂, applyPatchRoute_none hl₁, applyPatchRoute_none hl']
          exact ⟨rfl, rfl, rfl⟩
      | some lease' =>
          obtain ⟨hwork, hdir⟩ := h.leases sid lease hl
          obtain ⟨hwork', hdir'⟩ := h.leases sid' lease' hl'
          -- Each writes below its own workspace only, and the two are apart.
          obtain ⟨opTree, hwithin⟩ := applyPatchFiles_within (g.workPath sid) sid files
          obtain ⟨opTree', hwithin'⟩ := applyPatchFiles_within (g.workPath sid') sid' files'
          obtain ⟨hfs, hans', hans⟩ := hwithin.comm hwithin' (works_apart hne) hdir hdir'
          have h₁ : τ₁ = { σ with fs := (applyPatchFiles (g.workPath sid) sid files σ.fs).1 } := by
            simp [τ₁, applyPatchRoute_eq hl, hwork]
          have h₂ : τ₂ =
              { σ with fs := (applyPatchFiles (g.workPath sid') sid' files' σ.fs).1 } := by
            simp [τ₂, applyPatchRoute_eq hl', hwork']
          have hl₁ : τ₁.sessions sid' = some lease' := by rw [h₁]; exact hl'
          have hl₂ : τ₂.sessions sid = some lease := by rw [h₂]; exact hl
          rw [applyPatchRoute_eq hl₁, applyPatchRoute_eq hl₂, applyPatchRoute_eq hl,
            applyPatchRoute_eq hl', hwork, hwork', h₁, h₂]
          refine ⟨?_, hans', hans⟩
          simp only
          rw [hfs]

/-- A gateway that starts is separate. -/
theorem Started.separate (h : Started g σ) : Separate g σ where
  env := h.env
  overlay := h.overlay
  unused uuid _ p := h.noOverlay _ p
  leases sid lease hl := by
    rw [h.noSession sid] at hl
    cases hl

theorem fresh_started (g : GatewayConfig) : Started g (.fresh g) where
  env q hq := by simp [GatewayState.fresh, hq]
  overlay q hq := by simp [GatewayState.fresh, hq]
  noOverlay name p := by
    have henv : ¬ g.overlayRoot ++ name :: p <+: g.envRoot := by
      simpa using (env_apart_overlay (g := g) [] (name :: p)).2
    simp [GatewayState.fresh, henv, below_not_above]
  noSession _ := rfl
  noId := rfl

end

/-- **Snapshots and overlays are isolated**, in every run of a gateway from its start
whose session ids are distinct. -/
theorem isolated (g : GatewayConfig) (σ : GatewayState) (as : List GatewayAction)
    (hσ : Started g σ) (hids : (as.filterMap GatewayAction.newId).Nodup) : Isolated g σ as := by
  have has : Meets (GatewayAction.step g) FreshId σ as :=
    meets_freshId hσ.separate (fun id _ => by rw [hσ.noId]; exact List.not_mem_nil) hids
  have hsep : ∀ pre, pre <+: as → Separate g (run (GatewayAction.step g) σ pre) :=
    has.invariant (fun _ a h ha => separate_step a h ha) hσ.separate
  constructor
  · rintro pre mid post b rfl path hbase
    have hmid := (meets_append.mp (meets_append.mp has).2).1
    rw [run_append]
    exact base_run (hsep pre (List.prefix_append ..)) hmid hbase
  · rintro pre post fid uuid copied r rfl hr
    rw [run_append]
    exact workspace_step (hsep pre (List.prefix_append ..)) hr
  · rintro pre post sid files rfl q hq
    rw [run_append]
    exact patch_step (hsep pre (List.prefix_append ..)) hq
  · intro pre hpre sid sid' files files' hne
    exact patch_comm files files' (hsep pre hpre) hne

namespace Scripted

/-- Two sessions of one snapshot, one of them patched. -/
def twoSessions : List GatewayAction :=
  [opening "x", .createSession (fid "x") (uuid "0a") .whole,
    .createSession (fid "x") (uuid "0b") .whole, .applyPatch "sess_0a" [("Main.lean", "y")]]

end Scripted

/-- Two sessions of one snapshot, one of them patched. -/
theorem isolated_sessions :
    Isolated Scripted.gateway (.fresh Scripted.gateway) Scripted.twoSessions :=
  isolated _ _ _ (fresh_started _) (by decide)

end Gateway

end ObligationRuntime
