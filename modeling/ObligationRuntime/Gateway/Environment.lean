/-
  ObligationRuntime.Gateway.Environment — environments and sessions:
  snapshot_store.py, overlay_fs.py, routes_environment.py, and the `apply_patch` route
  on the files themselves.

  The gateway keeps one directory: a snapshot of a repository lies below
  `environments`, under its fingerprint's identifier, and a session's workspace below
  `overlays`, under its session id.  The repositories are elsewhere; an open reads the
  one at its path as it is at that time.  File modes are left out: only the workspaces
  are written to.  The worker that a session acquires is left out as well: none of these
  routes uses it.

  Main results:
    * `ensureSnapshot_cases`, `createOverlay_cases` — what the stores do,
    * `applyPatchFiles_within` — a patch stays below its workspace.
-/
import ObligationRuntime.Gateway.Fingerprint
import ObligationRuntime.Gateway.Workspace

namespace ObligationRuntime

open Py Posix Flow FileTree

namespace Gateway

/-! ## §1. The directories of the gateway. -/

/-- The files the gateway keeps. -/
abbrev Files := FileSystem Name ByteArray

/-- What the gateway runs with: its data root, digests, and the text of a metadata
file. -/
structure GatewayConfig where
  cwd : List Comp
  dataRoot : String := ".var"
  /-- The text of the root is not empty: that of `Path("")` is a dot. -/
  named : dataRoot ≠ "" := by decide
  sha : Sha256
  indented : Dict → ByteArray

namespace GatewayConfig

variable (g : GatewayConfig)

/-- `_DATA_ROOT`. -/
def root : List Comp := resolve g.cwd g.dataRoot

/-- `SnapshotStore.env_root`. -/
def envRoot : List Comp := g.root ++ ["environments".toList]

/-- `OverlayFS.overlay_root`. -/
def overlayRoot : List Comp := g.root ++ ["overlays".toList]

/-- `env_root / fid`. -/
def snapshotRoot (fid : String) : List Comp := resolve g.envRoot fid

/-- `env_root / fid / "base"`. -/
def basePath (fid : String) : List Comp := g.snapshotRoot fid ++ ["base".toList]

/-- `overlay_root / session_id / "work"`. -/
def workPath (sessionId : String) : List Comp :=
  g.overlayRoot ++ [sessionId.toList] ++ ["work".toList]

/-- The text of that path. -/
def workText (sessionId : String) : String := g.dataRoot ++ "/overlays/" ++ sessionId ++ "/work"

end GatewayConfig

/-- How far a copy of a tree comes: a copy that fails leaves some of the entries. -/
inductive Copied where
  | whole
  | part (keep : List Name → Bool)

/-- What a copy leaves. -/
def Copied.of (d : Directory Name ByteArray) : Copied → Directory Name ByteArray
  | .whole => d
  | .part keep => d.restrict keep

/-- `shutil.copytree`: what is left, and whether it raised. -/
def copytree (fs : Files) (src : Directory Name ByteArray) (dst : List Name) (copied : Copied) :
    Files × Except PyError Unit :=
  match copyTree fs dst (copied.of src).entry with
  | none => (fs, .error (.osError "copytree"))
  | some fs' =>
      match copied with
      | .whole => (fs', .ok ())
      | .part _ => (fs', .error (.osError "copytree"))

/-- A copy and, once it is whole, the metadata file beside it. -/
def copyWithMeta (fs : Files) (src : Directory Name ByteArray) (dir : List Name) (name : String)
    (metadata : ByteArray) (copied : Copied) : Files × Except PyError Unit :=
  match copytree fs src (dir ++ [name.toList]) copied with
  | (fs', .error e) => (fs', .error e)
  | (fs', .ok ()) =>
      match write fs' (dir ++ ["meta.json".toList]) metadata with
      | none => (fs', .error (.osError "meta.json"))
      | some fs'' => (fs'', .ok ())

/-! ## §2. snapshot_store.py -/

/-- `ensure_snapshot`. -/
def ensureSnapshot (g : GatewayConfig) (fs : Files) (env : EnvironmentFingerprint) (source : Repo)
    (copied : Copied) : Files × Except PyError Unit :=
  let fid := fingerprintId g.sha env
  if (fs (g.basePath fid)).isSome then (fs, .ok ())
  else
    match mkdirs fs (g.snapshotRoot fid) with
    | none => (fs, .error (.osError "mkdir"))
    | some made =>
        copyWithMeta made source (g.snapshotRoot fid) "base" (g.indented env.dump) copied

/-! ## §3. overlay_fs.py -/

/-- `uuid4().hex`. -/
structure Uuid where
  hex : String
  digits : ∀ c ∈ hex.toList, c ∈ "0123456789abcdef".toList
  deriving DecidableEq

/-- `f"sess_{uuid4().hex}"`. -/
def Uuid.sessionId (uuid : Uuid) : String := "sess_" ++ uuid.hex

/-- `create_overlay`, of the snapshot whose base is given. -/
def createOverlay (g : GatewayConfig) (fs : Files) (fid : String)
    (base : Directory Name ByteArray) (uuid : Uuid) (copied : Copied) :
    Files × Except PyError Unit :=
  let sid := uuid.sessionId
  copyWithMeta fs base (g.overlayRoot ++ [sid.toList]) "work"
    (g.indented [("session_id", .str sid), ("fingerprint_id", .str fid),
      ("base_path", .str (g.dataRoot ++ "/environments/" ++ fid ++ "/base"))])
    copied

/-! ## §4. The routes. -/

/-- `OpenEnvironmentRequest`. -/
structure OpenEnvironmentRequest where
  repoId : String
  repoPath : Option String := none
  repoUrl : Option String := none
  commitSha : Option String := some "HEAD"
  deriving DecidableEq, Repr

/-- The path of the repository to open. -/
def OpenEnvironmentRequest.repoRoot (payload : OpenEnvironmentRequest) : String :=
  match payload.repoPath with
  | none => "tests/integration/fixtures/lean-mini"
  | some path => if path = "" then "tests/integration/fixtures/lean-mini" else path

/-- `payload.commit_sha or "HEAD"`. -/
def OpenEnvironmentRequest.commit (payload : OpenEnvironmentRequest) : String :=
  match payload.commitSha with
  | none => "HEAD"
  | some sha => if sha = "" then "HEAD" else sha

/-- `SessionLease`. -/
structure Lease where
  sessionId : String
  fingerprintId : String
  workspacePath : List Comp
  deriving DecidableEq

/-- The gateway: its files and its sessions.  The session ids that were generated are
kept as a history. -/
structure GatewayState where
  fs : Files
  sessions : String → Option Lease := fun _ => none
  generated : List String := []

/-- A gateway over an empty data root. -/
def GatewayState.fresh (g : GatewayConfig) : GatewayState where
  fs q := if q <+: g.envRoot ∨ q <+: g.overlayRoot then some .dir else none

section Routes

variable (g : GatewayConfig) (σ : GatewayState)

/-- `open_environment`: the repositories are read as they are on the disk. -/
def openEnvironment (now : Timestamp) (payload : OpenEnvironmentRequest)
    (disk : String → Option Repo) (copied : Copied) :
    GatewayState × Except PyError OpenEnvironmentResponse :=
  match disk payload.repoRoot with
  | none => (σ, .error (.fileNotFoundError "lean-toolchain not found"))
  | some repo =>
      match buildFromRepo now g.sha repo payload.repoId payload.commit payload.repoUrl with
      | .error e => (σ, .error e)
      | .ok env =>
          match ensureSnapshot g σ.fs env repo copied with
          | (fs, .error e) => ({ σ with fs }, .error e)
          | (fs, .ok ()) =>
              let fid := fingerprintId g.sha env
              ({ σ with fs },
                .ok
                  { fingerprint := env
                    fingerprintId := fid
                    snapshotPath := g.dataRoot ++ "/environments/" ++ fid ++ "/base" })

/-- `base_path.exists()`, which an identifier with a NUL answers without a look. -/
def baseExists (fs : Files) (fid : String) : Bool :=
  !hasNul fid && (fs (g.basePath fid)).isSome

/-- `create_session`. -/
def createSession (fid : String) (uuid : Uuid) (copied : Copied) :
    GatewayState × Except PyError CreateSessionResponse :=
  if !baseExists g σ.fs fid then
    (σ, .error (.fileNotFoundError ("Snapshot not found for " ++ fid)))
  else
    let σ' := { σ with generated := σ.generated ++ [uuid.sessionId] }
    match directoryAt σ.fs (g.basePath fid) with
    | none => (σ', .error (.osError "copytree"))
    | some base =>
        match createOverlay g σ.fs fid base uuid copied with
        | (fs, .error e) => ({ σ' with fs }, .error e)
        | (fs, .ok ()) =>
            let sid := uuid.sessionId
            ({ σ' with
                fs
                sessions := Function.update σ.sessions sid
                  (some ⟨sid, fid, g.workPath sid⟩) },
              .ok
                { sessionId := sid
                  fingerprintId := fid
                  workspacePath := g.workText sid })

/-- The writes of `apply_patch`, on the files: one that fails ends them. -/
def applyPatchFiles (root : List Comp) (sessionId : String) (files : Patch) (fs : Files) :
    Files × Except PyError ApplyPatchResponse :=
  let r := applyPatch root sessionId files
  let written := putAll fs (r.calls.map fun w => (w.file, w.content.toUTF8))
  (written.1, if written.2 then r.result else .error (.osError "write_text"))

/-- `apply_patch`. -/
def applyPatchRoute (sessionId : String) (files : Patch) :
    GatewayState × Except PyError ApplyPatchResponse :=
  match σ.sessions sessionId with
  | none => (σ, .error (.apiError 404 "session_not_found"))
  | some lease =>
      let r := applyPatchFiles lease.workspacePath sessionId files σ.fs
      ({ σ with fs := r.1 }, r.2)

end Routes

/-- A request to the gateway, with what it finds. -/
inductive GatewayAction where
  | openEnvironment (now : Timestamp) (payload : OpenEnvironmentRequest)
      (disk : String → Option Repo) (copied : Copied)
  | createSession (fid : String) (uuid : Uuid) (copied : Copied)
  | applyPatch (sessionId : String) (files : Patch)

/-- The session id that is generated for the request. -/
def GatewayAction.newId : GatewayAction → Option String
  | .createSession _ uuid _ => some uuid.sessionId
  | _ => none

/-- The gateway after the request. -/
def GatewayAction.step (g : GatewayConfig) (σ : GatewayState) : GatewayAction → GatewayState
  | .openEnvironment now payload disk copied =>
      (Gateway.openEnvironment g σ now payload disk copied).1
  | .createSession fid uuid copied => (Gateway.createSession g σ fid uuid copied).1
  | .applyPatch sessionId files => (applyPatchRoute σ sessionId files).1

/-! ## §5. Where the directories are. -/

/-- A digest names an entry of a directory. -/
theorem Sha256.normal (sha : Sha256) (b : ByteArray) : Normal (sha.hexdigest b).toList := by
  obtain ⟨hne, hhex⟩ := sha.hex b
  have hno : ∀ c, c ∉ "0123456789abcdef".toList → c ∉ (sha.hexdigest b).toList :=
    fun c hc hmem => hc (hhex c hmem)
  have hdot := hno '.' (by decide)
  refine ⟨fun h => hne (String.toList_injective h), ?_, ?_, hno '/' (by decide)⟩
  · intro h
    simp [h] at hdot
  · intro h
    simp [h] at hdot

/-- One name below a directory. -/
theorem resolve_name (base : List Comp) {name : String} (h : Normal name.toList) :
    resolve base name = base ++ [name.toList] := by
  have hspell : spell [name.toList] = name := by simp [spell]
  rw [← hspell, resolve_spell base (by simpa using h), hspell]

section

variable {g : GatewayConfig}

/-- The snapshots of a fingerprint stand in a directory of their own, -/
theorem snapshotRoot_digest (b : ByteArray) :
    g.snapshotRoot (g.sha.hexdigest b) = g.envRoot ++ [(g.sha.hexdigest b).toList] :=
  resolve_name g.envRoot (g.sha.normal b)

/-- the base below it, -/
theorem basePath_digest (b : ByteArray) :
    g.basePath (g.sha.hexdigest b) =
      g.envRoot ++ (g.sha.hexdigest b).toList :: ["base".toList] := by
  rw [GatewayConfig.basePath, snapshotRoot_digest, List.append_assoc]
  rfl

/-- and the work of a session among the overlays. -/
theorem workPath_eq (sid : String) :
    g.workPath sid = g.overlayRoot ++ sid.toList :: ["work".toList] := by
  rw [GatewayConfig.workPath, List.append_assoc]
  rfl

/-- Snapshots and overlays lie apart. -/
theorem env_apart_overlay (p q : List Name) : Apart (g.envRoot ++ p) (g.overlayRoot ++ q) := by
  have hne : "environments".toList ≠ "overlays".toList := by decide
  simpa [GatewayConfig.envRoot, GatewayConfig.overlayRoot, List.append_assoc] using
    apart_of_ne g.root hne p q

/-- The overlays of two sessions lie apart. -/
theorem overlays_apart {sid sid' : String} (h : sid ≠ sid') (p q : List Name) :
    Apart (g.overlayRoot ++ sid.toList :: p) (g.overlayRoot ++ sid'.toList :: q) :=
  apart_of_ne g.overlayRoot (fun e => h (String.toList_injective e)) p q

/-- The snapshots of two digests lie apart. -/
theorem snapshots_apart {fid fid' : String} (h : fid ≠ fid') (p q : List Name) :
    Apart (g.envRoot ++ fid.toList :: p) (g.envRoot ++ fid'.toList :: q) :=
  apart_of_ne g.envRoot (fun e => h (String.toList_injective e)) p q

/-! ## §6. What the stores do. -/

variable {fs fs' : Files} {copied : Copied}

/-- What changes in the directory of a snapshot leaves the base of another digest. -/
theorem other_base {fid : String} {b : ByteArray} (hne : g.sha.hexdigest b ≠ fid)
    (h : SameOutside (g.envRoot ++ [fid.toList]) fs fs') :
    sub fs' (g.basePath (g.sha.hexdigest b)) = sub fs (g.basePath (g.sha.hexdigest b)) := by
  refine h.sub_eq ?_
  rw [basePath_digest]
  exact snapshots_apart hne.symm [] ["base".toList]

/-- A copy changes nothing outside the entry it is made at. -/
theorem copytree_sameOutside {q r : List Name} {a : Name} {src : Directory Name ByteArray}
    (hq : IsDir fs q) : SameOutside (q ++ [a]) fs (copytree fs src (q ++ a :: r) copied).1 := by
  unfold copytree
  split
  · exact SameOutside.refl _ fs
  next fs' h =>
    have hout := copyTree_sameOutside hq h
    cases copied <;> exact hout

/-- A copy that did not raise is whole. -/
theorem copytree_ok {dst : List Name} {src : Directory Name ByteArray}
    (h : copytree fs src dst copied = (fs', .ok ())) :
    copied = .whole ∧ copyTree fs dst src.entry = some fs' := by
  unfold copytree at h
  split at h
  · cases h
  next fs'' hcopy =>
    cases copied with
    | whole =>
        obtain rfl := (Prod.mk.inj h).1
        exact ⟨rfl, hcopy⟩
    | part keep => cases (Prod.mk.inj h).2

/-- **A copy stays in its directory**, the metadata file included. -/
theorem copyWithMeta_sameOutside {q : List Name} {a : Name} {src : Directory Name ByteArray}
    {name : String} {metadata : ByteArray} (hq : IsDir fs q) :
    SameOutside (q ++ [a]) fs (copyWithMeta fs src (q ++ [a]) name metadata copied).1 := by
  have hcopy : SameOutside (q ++ [a]) fs
      (copytree fs src ((q ++ [a]) ++ [name.toList]) copied).1 := by
    rw [List.append_assoc]
    exact copytree_sameOutside hq
  unfold copyWithMeta
  split
  next fs' e h =>
    rw [h] at hcopy
    exact hcopy
  next fs' h =>
    rw [h] at hcopy
    split
    · exact hcopy
    next fs'' hw => exact hcopy.trans ((write_sameOutside hw).widen (List.prefix_append ..))

/-- **A copy that did not raise is whole**, and there was nothing in its place. -/
theorem copyWithMeta_ok {dir : List Name} {src : Directory Name ByteArray} {name : String}
    {metadata : ByteArray} (hname : name ≠ "meta.json")
    (h : copyWithMeta fs src dir name metadata copied = (fs', .ok ())) :
    copied = .whole ∧ fs (dir ++ [name.toList]) = none ∧
      sub fs' (dir ++ [name.toList]) = src.entry ∧ IsDir fs' (dir ++ [name.toList]) := by
  unfold copyWithMeta at h
  split at h
  · cases (Prod.mk.inj h).2
  next made hmade =>
    obtain ⟨hwhole, hcopy⟩ := copytree_ok hmade
    split at h
    · cases (Prod.mk.inj h).2
    next fs'' hw =>
      obtain rfl := (Prod.mk.inj h).1
      have hne : "meta.json".toList ≠ name.toList := fun e => hname (String.toList_injective e).symm
      have hapart : Apart (dir ++ ["meta.json".toList]) (dir ++ [name.toList]) :=
        apart_of_ne dir hne [] []
      have hout := write_sameOutside hw
      refine ⟨hwhole, (copyTree_eq_some_iff.mp hcopy).1, ?_, ?_⟩
      · rw [hout.sub_eq hapart]
        exact sub_copyTree hcopy
      · exact hout.isDir hapart.1 (copyTree_isDir src.root hcopy)

/-- **What `ensure_snapshot` does**: nothing where there is a base; otherwise it stays in
the directory of the snapshot, and where it does not raise the base is the repository. -/
theorem ensureSnapshot_cases (copied : Copied) (env : EnvironmentFingerprint) (source : Repo)
    (henv : IsDir fs g.envRoot) :
    let fid := fingerprintId g.sha env
    let r := ensureSnapshot g fs env source copied
    ((fs (g.basePath fid)).isSome ∧ r = (fs, .ok ())) ∨
      (fs (g.basePath fid) = none ∧ SameOutside (g.envRoot ++ [fid.toList]) fs r.1 ∧
        (r.2 = .ok () → copied = .whole ∧ sub r.1 (g.basePath fid) = source.entry)) := by
  intro fid r
  have hroot : g.snapshotRoot fid = g.envRoot ++ [fid.toList] := snapshotRoot_digest _
  by_cases hbase : (fs (g.basePath fid)).isSome
  · exact .inl ⟨hbase, if_pos hbase⟩
  · refine .inr ⟨Option.not_isSome_iff_eq_none.mp hbase, ?_⟩
    -- All writes are below the directory of the snapshot, whether they succeed or not.
    have hr : r = match mkdirs fs (g.snapshotRoot fid) with
        | none => (fs, .error (.osError "mkdir"))
        | some made =>
            copyWithMeta made source (g.snapshotRoot fid) "base" (g.indented env.dump) copied :=
      if_neg hbase
    rw [hr, GatewayConfig.basePath, hroot]
    cases hmade : mkdirs fs (g.envRoot ++ [fid.toList]) with
    | none => exact ⟨SameOutside.refl _ fs, fun h => by cases h⟩
    | some made =>
        have hdir : IsDir made g.envRoot := (mkdirs_isDir hmade).mono (List.prefix_append ..)
        refine ⟨(mkdirs_sameOutside henv hmade).trans (copyWithMeta_sameOutside hdir), fun h => ?_⟩
        obtain ⟨hwhole, -, hsub, -⟩ := copyWithMeta_ok (by decide) (Prod.ext rfl h)
        exact ⟨hwhole, hsub⟩

/-- A whole copy succeeds in a directory that has room. -/
theorem copyWithMeta_room {dir : List Name} {src : Directory Name ByteArray} {name : String}
    {metadata : ByteArray} (hname : name ≠ "meta.json") (hdir : IsDir fs dir)
    (hroom : ∀ a p, fs (dir ++ a :: p) = none) :
    (copyWithMeta fs src dir name metadata .whole).2 = .ok () := by
  obtain ⟨made, hmade⟩ := copyTree_room (t := src.entry) hdir (hroom name.toList)
  have hout : SameOutside (dir ++ [name.toList]) fs made := copyTree_sameOutside hdir hmade
  have hdir' : made dir = some .dir :=
    (hout.isDir (below_not_above _ _ _) hdir).self
  have hmeta : made (dir ++ ["meta.json".toList]) = none := by
    have hne : name.toList ≠ "meta.json".toList := fun e => hname (String.toList_injective e)
    exact (hout _ (apart_of_ne dir hne [] []).1).trans (hroom _ [])
  obtain ⟨fs', hfs'⟩ := write_room metadata hdir' hmeta
  have hcopy : copytree fs src (dir ++ [name.toList]) .whole = (made, .ok ()) := by
    simp only [copytree, Copied.of, hmade]
  simp only [copyWithMeta, hcopy, hfs']

/-- **An open succeeds** where its snapshot is there, or has room. -/
theorem ensureSnapshot_room (env : EnvironmentFingerprint) (source : Repo)
    (henv : IsDir fs g.envRoot)
    (hroom : fs (g.basePath (fingerprintId g.sha env)) = none →
      ∀ p, fs (g.envRoot ++ (fingerprintId g.sha env).toList :: p) = none) :
    (ensureSnapshot g fs env source .whole).2 = .ok () := by
  have hroot : g.snapshotRoot (fingerprintId g.sha env) =
      g.envRoot ++ [(fingerprintId g.sha env).toList] := snapshotRoot_digest _
  unfold ensureSnapshot
  simp only
  split
  · rfl
  next hbase =>
    have hnone := hroom (Option.not_isSome_iff_eq_none.mp hbase)
    obtain ⟨made, hmade, hsame⟩ := mkdirs_room (r := []) henv hnone
    rw [hroot, hmade]
    refine copyWithMeta_room (by decide) (mkdirs_isDir hmade) fun a p => ?_
    rw [hsame _ (below_not_above _ _ _), List.append_assoc]
    exact hnone _

/-- **What `create_overlay` does**: it stays in the directory of the session, and where it
does not raise the workspace is the base. -/
theorem createOverlay_cases (fid : String) (base : Directory Name ByteArray) (uuid : Uuid)
    (copied : Copied) (hoverlay : IsDir fs g.overlayRoot) :
    let r := createOverlay g fs fid base uuid copied
    SameOutside (g.overlayRoot ++ [uuid.sessionId.toList]) fs r.1 ∧
      (r.2 = .ok () → sub r.1 (g.workPath uuid.sessionId) = base.entry ∧
        IsDir r.1 (g.workPath uuid.sessionId)) := by
  intro r
  refine ⟨copyWithMeta_sameOutside hoverlay, fun h => ?_⟩
  obtain ⟨-, -, hsub, hdir⟩ := copyWithMeta_ok (by decide) (Prod.ext rfl h)
  exact ⟨hsub, hdir⟩

/-- **A patch stays below its workspace.** -/
theorem applyPatchFiles_within (root : List Comp) (sessionId : String) (files : Patch) :
    ∃ opTree, Within root (applyPatchFiles root sessionId files) opTree := by
  have hws : ∀ w ∈ (applyPatch root sessionId files).calls.map
      fun w => (w.file, w.content.toUTF8), root <+: w.1 := by
    intro w hw
    obtain ⟨v, hv, rfl⟩ := List.mem_map.mp hw
    rw [applyPatch_calls] at hv
    obtain ⟨relPath, -, hfile⟩ := mem_writeFiles hv
    exact (resolveUnderRoot_ok hfile).2
  exact ⟨_, (putAll_within hws).answer fun written =>
    if written then (applyPatch root sessionId files).result else .error (.osError "write_text")⟩

end

namespace Scripted

/-- A gateway whose digests do not collide. -/
def gateway : GatewayConfig where
  cwd := ["srv".toList]
  sha := hexSha
  indented _ := ByteArray.empty

/-- A repository with a module. -/
def repo (module : String) : Repo where
  entry q :=
    if q = [] then some .dir
    else if q = ["lean-toolchain".toList] then some (.file "lean4".toUTF8)
    else if q = ["lakefile.toml".toList] then some (.file "name".toUTF8)
    else if q = ["Main.lean".toList] then some (.file module.toUTF8)
    else none
  root := rfl

/-- The time of the scripted requests. -/
def time : Timestamp := ⟨"2026-02-01T00:00:00Z", by decide⟩

/-- An open of the repository. -/
def opening (module : String) : GatewayAction :=
  .openEnvironment time { repoId := "demo" } (fun _ => some (repo module)) .whole

/-- The identifier the open returns. -/
def fid (module : String) : String :=
  match (openEnvironment gateway (.fresh gateway) time { repoId := "demo" }
      (fun _ => some (repo module)) .whole).2 with
  | .ok r => r.fingerprintId
  | .error _ => ""

/-- A session id. -/
def uuid (hex : String)
    (digits : (hex.toList.all fun c => decide (c ∈ "0123456789abcdef".toList)) = true := by
      decide) : Uuid :=
  ⟨hex, hexadecimal_of_all digits⟩

end Scripted

end Gateway

end ObligationRuntime
