/-
  ObligationRuntime.Gateway.Publication — open_environment and create_session step by
  step: snapshot_store.py, overlay_fs.py and routes_environment.py, with the requests
  interleaved.

  Gateway.Environment takes a request whole.  Here the requests run at the same time, and
  a step of one is what it does between two looks at the disk: the check whether there is
  a base, the directory a copytree makes, one file it copies, and what follows the
  copytree.  A file may fail to be copied: copytree goes on to the others and raises once
  it has come to all.  A request may also die at any time and leave what it has made.

  Nothing but its existence tells a base that is whole from one that is being filled.

  Main results:
    * `openCopytree_cases`, `sessionCopytree_cases` — where a copytree begins.
-/
import ObligationRuntime.Gateway.Environment
import ObligationRuntime.Lib.TreeCopy

namespace ObligationRuntime

open Py Posix FileTree

namespace Gateway

/-! ## §1. Requests under way. -/

/-- A repository with its files listed. -/
structure Source where
  disk : Disk Name ByteArray
  root : disk.fs [] = some .dir
  closed : Closed disk.fs

/-- The files of the repository. -/
def Source.repo (source : Source) : Repo := ⟨source.disk.fs, source.root⟩

/-- An open that found no base, with its copytree once that has begun. -/
structure OpenJob where
  env : EnvironmentFingerprint
  source : Source
  copy : Option (Copy Name) := none
  ended : Bool := false

/-- The identifier of its fingerprint. -/
def OpenJob.fid (g : GatewayConfig) (job : OpenJob) : String := fingerprintId g.sha job.env

/-- The base it fills. -/
def OpenJob.base (g : GatewayConfig) (job : OpenJob) : List Name := g.basePath (job.fid g)

/-- Its copytree has come to every entry, and none has failed. -/
def OpenJob.Copied (job : OpenJob) : Prop := ∃ c ∈ job.copy, c.Whole

instance (job : OpenJob) : Decidable job.Copied :=
  match h : job.copy with
  | none => isFalse fun ⟨c, hc, _⟩ => by simp [h] at hc
  | some c => decidable_of_iff c.Whole (by simp [OpenJob.Copied, h])

/-- A new session that found a base, with its copytree once that has begun, and the base
as it was then. -/
structure SessionJob where
  fid : String
  uuid : Uuid
  base : FileSystem Name ByteArray := fun _ => none
  copy : Option (Copy Name) := none
  ended : Bool := false

/-- The workspace it fills. -/
def SessionJob.work (g : GatewayConfig) (job : SessionJob) : List Name :=
  g.workPath job.uuid.sessionId

/-- An open that has returned, and the base it returned. -/
structure OpenReturn where
  env : EnvironmentFingerprint
  base : FileSystem Name ByteArray

/-- A session that was created: the base its copytree found, and its workspace. -/
structure SessionCreated where
  fid : String
  base : FileSystem Name ByteArray
  work : FileSystem Name ByteArray

/-- The requests and the disk they share. -/
structure Requests where
  disk : Disk Name ByteArray
  opens : List OpenJob := []
  sessions : List SessionJob := []
  returned : List OpenReturn := []
  created : List SessionCreated := []

/-- A gateway over an empty data root. -/
def Requests.fresh (g : GatewayConfig) : Requests where
  disk :=
    { fs := (GatewayState.fresh g).fs
      paths := g.envRoot.inits ++ g.overlayRoot.inits
      covers := by
        intro q hq
        simp only [GatewayState.fresh] at hq
        split at hq
        next h =>
          rcases h with h | h
          · exact List.mem_append_left _ ((List.mem_inits _ _).mpr h)
          · exact List.mem_append_right _ ((List.mem_inits _ _).mpr h)
        · cases hq }

/-! ## §2. open_environment -/

/-- The fingerprint of the repository at the path, where there is one. -/
def openFingerprint (g : GatewayConfig) (now : Timestamp) (payload : OpenEnvironmentRequest)
    (disk : String → Option Source) : Option (EnvironmentFingerprint × Source) :=
  match disk payload.repoRoot with
  | none => none
  | some source =>
      match buildFromRepo now g.sha source.repo payload.repoId payload.commit payload.repoUrl with
      | .error _ => none
      | .ok env => some (env, source)

section

variable (g : GatewayConfig) (σ : Requests)

/-- `if not base_path.exists()`: an open that finds a base returns. -/
def openCheck (now : Timestamp) (payload : OpenEnvironmentRequest)
    (disk : String → Option Source) : Requests :=
  match openFingerprint g now payload disk with
  | none => σ
  | some (env, source) =>
      let path := g.basePath (fingerprintId g.sha env)
      if (σ.disk.fs path).isSome then
        { σ with returned := σ.returned ++ [⟨env, sub σ.disk.fs path⟩] }
      else { σ with opens := σ.opens ++ [{ env, source }] }

/-- `snapshot_root.mkdir`, and the directory that `copytree` makes: a base that is there by
now makes it raise. -/
def openCopytree (i : Nat) : Requests :=
  match σ.opens[i]? with
  | none => σ
  | some job =>
      if job.ended ∨ job.copy.isSome then σ
      else
        let raised := σ.opens.set i { job with ended := true }
        match σ.disk.mkdirs (g.snapshotRoot (job.fid g)) with
        | none => { σ with opens := raised }
        | some made =>
            match made.makedirs (job.base g) with
            | none => { σ with disk := made, opens := raised }
            | some disk =>
                { σ with
                  disk
                  opens := σ.opens.set i
                    { job with copy := some { pending := entriesBelow job.source.disk [] [] } } }

/-- One entry of the repository is copied, or fails to be. -/
def openEntry (i : Nat) (q : List Name) (ok : Bool) : Requests :=
  match σ.opens[i]? with
  | none => σ
  | some job =>
      match job.ended, job.copy with
      | false, some c =>
          let next := copyNext job.source.disk [] σ.disk (job.base g) c q ok
          { σ with disk := next.1, opens := σ.opens.set i { job with copy := some next.2 } }
      | _, _ => σ

/-- The end of `copytree`, which raises if an entry has failed, and the metadata file,
whose writing may fail. -/
def openReturn (i : Nat) (ok : Bool) : Requests :=
  match σ.opens[i]? with
  | none => σ
  | some job =>
      if job.ended ∨ ¬ job.copy.any (·.pending.isEmpty) then σ
      else
        let opens := σ.opens.set i { job with ended := true }
        let metadata :=
          if ok ∧ job.copy.all fun c => ! c.failed then
            σ.disk.write (g.snapshotRoot (job.fid g) ++ ["meta.json".toList])
              (g.indented job.env.dump)
          else none
        match metadata with
        | none => { σ with opens }
        | some disk =>
            { σ with
              disk
              opens
              returned := σ.returned ++ [⟨job.env, sub disk.fs (job.base g)⟩] }

/-- The request dies, and leaves what it has made. -/
def openDies (i : Nat) : Requests :=
  match σ.opens[i]? with
  | none => σ
  | some job => { σ with opens := σ.opens.set i { job with ended := true } }

/-! ## §3. create_session -/

/-- `if not base_path.exists()`: a new session that finds no base raises. -/
def sessionCheck (fid : String) (uuid : Uuid) : Requests :=
  if baseExists g σ.disk.fs fid then
    { σ with sessions := σ.sessions ++ [{ fid, uuid }] }
  else σ

/-- `copytree` of the base begins: it lists the base, and makes the directory. -/
def sessionCopytree (i : Nat) : Requests :=
  match σ.sessions[i]? with
  | none => σ
  | some job =>
      if job.ended ∨ job.copy.isSome then σ
      else
        let path := g.basePath job.fid
        let made :=
          match σ.disk.fs path with
          | some .dir => σ.disk.makedirs (job.work g)
          | _ => none
        match made with
        | none => { σ with sessions := σ.sessions.set i { job with ended := true } }
        | some disk =>
            { σ with
              disk
              sessions := σ.sessions.set i
                { job with
                  base := sub σ.disk.fs path
                  copy := some { pending := entriesBelow σ.disk path [] } } }

/-- One entry of the base is copied as it is by now, or fails to be. -/
def sessionEntry (i : Nat) (q : List Name) (ok : Bool) : Requests :=
  match σ.sessions[i]? with
  | none => σ
  | some job =>
      match job.ended, job.copy with
      | false, some c =>
          let next := copyNext σ.disk (g.basePath job.fid) σ.disk (job.work g) c q ok
          { σ with disk := next.1, sessions := σ.sessions.set i { job with copy := some next.2 } }
      | _, _ => σ

/-- The end of `copytree`, the metadata file, and the session. -/
def sessionReturn (i : Nat) (ok : Bool) : Requests :=
  match σ.sessions[i]? with
  | none => σ
  | some job =>
      if job.ended ∨ ¬ job.copy.any (·.pending.isEmpty) then σ
      else
        let sessions := σ.sessions.set i { job with ended := true }
        let sid := job.uuid.sessionId
        let metadata :=
          if ok ∧ job.copy.all fun c => ! c.failed then
            σ.disk.write (g.overlayRoot ++ [sid.toList] ++ ["meta.json".toList])
              (g.indented [("session_id", .str sid), ("fingerprint_id", .str job.fid),
                ("base_path", .str (g.dataRoot ++ "/environments/" ++ job.fid ++ "/base"))])
          else none
        match metadata with
        | none => { σ with sessions }
        | some disk =>
            { σ with
              disk
              sessions
              created := σ.created ++ [⟨job.fid, job.base, sub disk.fs (job.work g)⟩] }

/-- The request dies, and leaves what it has made. -/
def sessionDies (i : Nat) : Requests :=
  match σ.sessions[i]? with
  | none => σ
  | some job => { σ with sessions := σ.sessions.set i { job with ended := true } }

end

/-! ## §4. Runs. -/

/-- A step of one of the requests. -/
inductive RequestStep where
  | openCheck (now : Timestamp) (payload : OpenEnvironmentRequest) (disk : String → Option Source)
  | openCopytree (i : Nat)
  | openEntry (i : Nat) (q : List Name) (ok : Bool)
  | openReturn (i : Nat) (ok : Bool)
  | openDies (i : Nat)
  | sessionCheck (fid : String) (uuid : Uuid)
  | sessionCopytree (i : Nat)
  | sessionEntry (i : Nat) (q : List Name) (ok : Bool)
  | sessionReturn (i : Nat) (ok : Bool)
  | sessionDies (i : Nat)

/-- The requests after the step. -/
def RequestStep.step (g : GatewayConfig) (σ : Requests) : RequestStep → Requests
  | .openCheck now payload disk => Gateway.openCheck g σ now payload disk
  | .openCopytree i => Gateway.openCopytree g σ i
  | .openEntry i q ok => Gateway.openEntry g σ i q ok
  | .openReturn i ok => Gateway.openReturn g σ i ok
  | .openDies i => Gateway.openDies σ i
  | .sessionCheck fid uuid => Gateway.sessionCheck g σ fid uuid
  | .sessionCopytree i => Gateway.sessionCopytree g σ i
  | .sessionEntry i q ok => Gateway.sessionEntry g σ i q ok
  | .sessionReturn i ok => Gateway.sessionReturn g σ i ok
  | .sessionDies i => Gateway.sessionDies σ i

/-! ## §5. What the steps do. -/

section

variable (g : GatewayConfig) (σ : Requests) (i : Nat)

/-- What the check of an open does. -/
theorem openCheck_cases (now : Timestamp) (payload : OpenEnvironmentRequest)
    (disk : String → Option Source) :
    openCheck g σ now payload disk = σ ∨
      ∃ env source, openFingerprint g now payload disk = some (env, source) ∧
        let path := g.basePath (fingerprintId g.sha env)
        ((σ.disk.fs path).isSome ∧ openCheck g σ now payload disk =
            { σ with returned := σ.returned ++ [⟨env, sub σ.disk.fs path⟩] }) ∨
          openCheck g σ now payload disk = { σ with opens := σ.opens ++ [{ env, source }] } := by
  unfold openCheck
  cases h : openFingerprint g now payload disk with
  | none => exact .inl rfl
  | some o =>
      refine .inr ⟨o.1, o.2, rfl, ?_⟩
      by_cases hbase : (σ.disk.fs (g.basePath (fingerprintId g.sha o.1))).isSome
      · exact .inl ⟨hbase, if_pos hbase⟩
      · exact .inr (if_neg hbase)

/-- **Where the copytree of an open begins**: it makes the base, or the open raises. -/
theorem openCopytree_cases :
    openCopytree g σ i = σ ∨ ∃ job, σ.opens[i]? = some job ∧ job.copy = none ∧
      ((∃ disk, (disk = σ.disk ∨ σ.disk.mkdirs (g.snapshotRoot (job.fid g)) = some disk) ∧
          openCopytree g σ i =
            { σ with disk, opens := σ.opens.set i { job with ended := true } }) ∨
        ∃ made disk, σ.disk.mkdirs (g.snapshotRoot (job.fid g)) = some made ∧
          made.makedirs (job.base g) = some disk ∧
          openCopytree g σ i =
            { σ with
              disk
              opens := σ.opens.set i
                { job with copy := some { pending := entriesBelow job.source.disk [] [] } } }) := by
  unfold openCopytree
  cases hi : σ.opens[i]? with
  | none => exact .inl rfl
  | some job =>
      simp only
      split
      · exact .inl rfl
      next hgo =>
        have hcopy : job.copy = none := by simpa using (not_or.mp hgo).2
        refine .inr ⟨job, rfl, hcopy, ?_⟩
        split
        · exact .inl ⟨σ.disk, .inl rfl, rfl⟩
        next made hmade =>
          split
          · exact .inl ⟨made, .inr hmade, rfl⟩
          next disk hdisk => exact .inr ⟨made, disk, hmade, hdisk, rfl⟩

/-- What coming to an entry does. -/
theorem openEntry_cases (q : List Name) (ok : Bool) :
    openEntry g σ i q ok = σ ∨ ∃ job c, σ.opens[i]? = some job ∧ job.copy = some c ∧
      openEntry g σ i q ok =
        { σ with
          disk := (copyNext job.source.disk [] σ.disk (job.base g) c q ok).1
          opens := σ.opens.set i
            { job with
              copy := some (copyNext job.source.disk [] σ.disk (job.base g) c q ok).2 } } := by
  unfold openEntry
  cases hi : σ.opens[i]? with
  | none => exact .inl rfl
  | some job =>
      simp only
      split
      next c hended hcopy => exact .inr ⟨job, c, rfl, hcopy, rfl⟩
      · exact .inl rfl

/-- A copytree that is over, and none of its entries has failed. -/
theorem whole_of_over {copy : Option (Copy Name)} (hover : copy.any (·.pending.isEmpty) = true)
    (hok : (copy.all fun c => ! c.failed) = true) : ∃ c, copy = some c ∧ c.Whole := by
  cases copy with
  | none => cases hover
  | some c =>
      simp only [Option.any_some, List.isEmpty_iff] at hover
      simp only [Option.all_some, Bool.not_eq_true'] at hok
      exact ⟨c, rfl, hover, hok⟩

/-- What the end of an open does. -/
theorem openReturn_cases (ok : Bool) :
    openReturn g σ i ok = σ ∨ ∃ job, σ.opens[i]? = some job ∧
      (openReturn g σ i ok = { σ with opens := σ.opens.set i { job with ended := true } } ∨
        ∃ disk, job.Copied ∧
          σ.disk.write (g.snapshotRoot (job.fid g) ++ ["meta.json".toList])
            (g.indented job.env.dump) = some disk ∧
          openReturn g σ i ok =
            { σ with
              disk
              opens := σ.opens.set i { job with ended := true }
              returned := σ.returned ++ [⟨job.env, sub disk.fs (job.base g)⟩] }) := by
  unfold openReturn
  cases hi : σ.opens[i]? with
  | none => exact .inl rfl
  | some job =>
      simp only
      split
      · exact .inl rfl
      next hgo =>
        refine .inr ⟨job, rfl, ?_⟩
        split
        · exact .inl rfl
        next disk hdisk =>
          split at hdisk
          next hok =>
            obtain ⟨c, hc, hwhole⟩ := whole_of_over (by simpa using (not_or.mp hgo).2) hok.2
            exact .inr ⟨disk, ⟨c, hc, hwhole⟩, hdisk, rfl⟩
          · cases hdisk

/-- **Where the copytree of a new session begins.** -/
theorem sessionCopytree_cases :
    sessionCopytree g σ i = σ ∨ ∃ job, σ.sessions[i]? = some job ∧ job.ended = false ∧
      job.copy = none ∧
      (sessionCopytree g σ i = { σ with sessions := σ.sessions.set i { job with ended := true } } ∨
        ∃ disk, σ.disk.fs (g.basePath job.fid) = some .dir ∧
          σ.disk.makedirs (job.work g) = some disk ∧
          sessionCopytree g σ i =
            { σ with
              disk
              sessions := σ.sessions.set i
                { job with
                  base := sub σ.disk.fs (g.basePath job.fid)
                  copy := some
                    { pending := entriesBelow σ.disk (g.basePath job.fid) [] } } }) := by
  unfold sessionCopytree
  cases hi : σ.sessions[i]? with
  | none => exact .inl rfl
  | some job =>
      simp only
      split
      · exact .inl rfl
      next hgo =>
        -- The guard: a job that runs and has not begun to copy.
        have hended : job.ended = false := by simpa using (not_or.mp hgo).1
        have hcopy : job.copy = none := by simpa using (not_or.mp hgo).2
        refine .inr ⟨job, rfl, hended, hcopy, ?_⟩
        split
        · exact .inl rfl
        next disk hdisk =>
          split at hdisk
          next hdir => exact .inr ⟨disk, hdir, hdisk, rfl⟩
          · cases hdisk

/-- What coming to an entry of the base does. -/
theorem sessionEntry_cases (q : List Name) (ok : Bool) :
    sessionEntry g σ i q ok = σ ∨ ∃ job c, σ.sessions[i]? = some job ∧ job.copy = some c ∧
      sessionEntry g σ i q ok =
        { σ with
          disk := (copyNext σ.disk (g.basePath job.fid) σ.disk (job.work g) c q ok).1
          sessions := σ.sessions.set i
            { job with
              copy := some
                (copyNext σ.disk (g.basePath job.fid) σ.disk (job.work g) c q ok).2 } } := by
  unfold sessionEntry
  cases hi : σ.sessions[i]? with
  | none => exact .inl rfl
  | some job =>
      simp only
      split
      next c hended hcopy => exact .inr ⟨job, c, rfl, hcopy, rfl⟩
      · exact .inl rfl

/-- What the end of a new session does. -/
theorem sessionReturn_cases (ok : Bool) :
    sessionReturn g σ i ok = σ ∨ ∃ job, σ.sessions[i]? = some job ∧
      (sessionReturn g σ i ok = { σ with sessions := σ.sessions.set i { job with ended := true } } ∨
        ∃ c disk content, job.copy = some c ∧ c.Whole ∧
          σ.disk.write
            (g.overlayRoot ++ [job.uuid.sessionId.toList] ++ ["meta.json".toList]) content =
              some disk ∧
          sessionReturn g σ i ok =
            { σ with
              disk
              sessions := σ.sessions.set i { job with ended := true }
              created := σ.created ++ [⟨job.fid, job.base, sub disk.fs (job.work g)⟩] }) := by
  unfold sessionReturn
  cases hi : σ.sessions[i]? with
  | none => exact .inl rfl
  | some job =>
      simp only
      split
      · exact .inl rfl
      next hgo =>
        refine .inr ⟨job, rfl, ?_⟩
        split
        · exact .inl rfl
        next disk hdisk =>
          split at hdisk
          next hok =>
            obtain ⟨c, hc, hwhole⟩ := whole_of_over (by simpa using (not_or.mp hgo).2) hok.2
            exact .inr ⟨c, disk, _, hc, hwhole, hdisk, rfl⟩
          · cases hdisk

end

namespace Scripted

/-- A gateway with short digests. -/
def store : GatewayConfig where
  cwd := ["srv".toList]
  named := gateway.named
  sha :=
    { hexdigest := fun b => if b.data.toList.head? = some 110 then "a1" else "b2"
      hex := fun b => by
        split
        · exact ⟨by decide, hexadecimal_of_all (by decide)⟩
        · exact ⟨by decide, hexadecimal_of_all (by decide)⟩ }
  indented _ := ByteArray.empty

/-- The files of the scripted repository. -/
def entries : List (List Name) :=
  [["lean-toolchain".toList], ["lakefile.toml".toList], ["Main.lean".toList]]

/-- The scripted repository, listed. -/
def source : Source where
  disk :=
    { fs := (repo "x").entry
      paths := [] :: entries
      covers := by
        intro q hq
        simp only [repo] at hq
        split_ifs at hq with h h h h <;> simp_all [entries] }
  root := rfl
  closed := by
    intro q a hq
    simp only [repo] at hq ⊢
    split_ifs at hq with h
    · simp at h
    all_goals cases q <;> simp_all

/-- An open of it. -/
def check : RequestStep := .openCheck time { repoId := "demo" } fun _ => some source

/-- An open, and another after the first has come to every file. -/
def inTurn : List RequestStep :=
  [check, .openCopytree 0] ++ entries.map (fun q => .openEntry 0 q true) ++ [check]

/-- An open whose last file fails to be copied, so that it raises, and another. -/
def midway : List RequestStep :=
  [check, .openCopytree 0, .openEntry 0 ["lean-toolchain".toList] true,
    .openEntry 0 ["lakefile.toml".toList] true, .openEntry 0 ["Main.lean".toList] false,
    .openReturn 0 true, check]

end Scripted

end Gateway

end ObligationRuntime
