/-
  ObligationRuntime.Guarantees.PathConfinement — whether the paths that clients name stay
  where they belong.

  Only `apply_patch` asks whether a path leaves the workspace.  The endpoints of the
  language server join the path and look, and `create_session` joins the identifier, so
  each stays in place exactly where the joined path does, or where it never comes to look:
  the start of the language server raises, or the identifier has a NUL.

  Main results:
    * `paths_confined_iff` — the requests that are confined,
    * `paths_confined_fails` — a session whose base is in another session's workspace.
-/
import ObligationRuntime.Gateway.Publication
import ObligationRuntime.Gateway.Transport
import ObligationRuntime.Lib.Transition

namespace ObligationRuntime

open Py Posix Flow FileTree Transition

namespace Gateway

/-! ## §1. Requests that name a path. -/

/-- A request that names files, or a snapshot. -/
inductive PathRequest where
  | applyPatch (sessionId : String) (files : Patch)
  | interactiveCheck (sessionId filePath : String)
  | goal (sessionId filePath : String) (line column : Int) (goalKind : String)
  | hover (sessionId filePath : String) (line column : Int)
  | definition (sessionId filePath : String) (line column : Int)
  | createSession (fid : String) (uuid : Uuid) (copied : Copied)

/-- The endpoint looks at nothing but files in the workspace, and refuses any other path
without a look. -/
structure StaysIn {β : Type} (workspace : List Comp) (filePath : String)
    (r : Eff Access PyError β) : Prop where
  inside : Eff.Only (fun a => workspace <+: a.path) r
  refused : ¬ workspace <+: resolve workspace filePath → r.calls = [] ∧ ∃ e, r.result = .error e

section

variable {T : Type} [LinearOrder T] (g : GatewayConfig) (σ : GatewayState) (turn : LspTurn T)
  (server : LspServer)

/-- The identifier names an entry of the snapshot store. -/
def NamesSnapshot (fid : String) : Prop := ∃ name, g.snapshotRoot fid = g.envRoot ++ [name]

/-- **The request is confined**: what it reads or writes is in its session's workspace, or
is the base of a snapshot, and any other string is refused without a look. -/
def Confined : PathRequest → Prop
  | .applyPatch sid files => ∀ lease, σ.sessions sid = some lease →
      (∀ w ∈ (applyPatch lease.workspacePath sid files).calls, lease.workspacePath <+: w.file) ∧
        ∀ key ∈ files.paths, ¬ InRoot lease.workspacePath key →
          ∃ e, (applyPatchRoute σ sid files).2 = .error e
  | .interactiveCheck sid filePath => ∀ lease, σ.sessions sid = some lease →
      StaysIn lease.workspacePath filePath (interactiveCheckRoute g σ turn server sid filePath)
  | .goal sid filePath line column goalKind => ∀ lease, σ.sessions sid = some lease →
      StaysIn lease.workspacePath filePath
        (goalRoute g σ turn server sid filePath line column goalKind)
  | .hover sid filePath line column => ∀ lease, σ.sessions sid = some lease →
      StaysIn lease.workspacePath filePath (hoverRoute g σ turn server sid filePath line column)
  | .definition sid filePath line column => ∀ lease, σ.sessions sid = some lease →
      StaysIn lease.workspacePath filePath
        (definitionRoute g σ turn server sid filePath line column)
  | .createSession fid uuid copied =>
      Eff.Only (fun a => ∃ name, a.path = g.envRoot ++ [name] ++ ["base".toList])
          (createSessionRoute g σ fid uuid copied) ∧
        (¬ NamesSnapshot g fid → (createSessionRoute g σ fid uuid copied).calls = [] ∧
          ∃ e, (createSessionRoute g σ fid uuid copied).result = .error e)

/-- No server is got for the session: the one that is started for it raises. -/
def StartRaises (lease : Lease) : Prop :=
  ¬ Lsp.Returns turn.decoder g.cwd turn.servers (g.workText lease.sessionId) turn.exchange

/-- The path stays in the workspace of the session, or the endpoint never comes to look. -/
def StaysPut (sid filePath : String) : Prop :=
  ∀ lease, σ.sessions sid = some lease →
    lease.workspacePath <+: resolve lease.workspacePath filePath ∨ StartRaises g turn lease

/-- The string of the request stays in place, or the request cannot look. -/
def InPlace : PathRequest → Prop
  | .applyPatch .. => True
  | .interactiveCheck sid filePath => StaysPut g σ turn sid filePath
  | .goal sid filePath .. => StaysPut g σ turn sid filePath
  | .hover sid filePath .. => StaysPut g σ turn sid filePath
  | .definition sid filePath .. => StaysPut g σ turn sid filePath
  | .createSession fid .. => NamesSnapshot g fid ∨ hasNul fid = true

end

/-! ## §2. What each of them does. -/

section

variable {T : Type} [LinearOrder T] {g : GatewayConfig} {σ : GatewayState} {turn : LspTurn T}
  {server : LspServer}

theorem startRaises_iff {lease : Lease} :
    StartRaises g turn lease ↔ ∃ e, turn.server g lease.sessionId = .error e := by
  unfold StartRaises LspTurn.server
  rw [← Lsp.getOrCreateLsp_returns_iff turn.decoder g.cwd (g.workText lease.sessionId) turn.now
    turn.exchange turn.servers]
  cases (Lsp.getOrCreateLsp turn.decoder g.cwd (g.workText lease.sessionId) turn.now
    turn.exchange turn.servers).1 <;> simp

/-- An endpoint of the language server stays in the workspace exactly where the path does,
or where the start of the server raises. -/
theorem openFile_staysIn_iff {β : Type} {lease : Lease} {filePath : String} {empty : β}
    {ask : String → β} :
    StaysIn lease.workspacePath filePath (openFile g σ turn lease filePath empty ask) ↔
      lease.workspacePath <+: resolve lease.workspacePath filePath ∨
        StartRaises g turn lease := by
  rw [startRaises_iff]
  constructor
  · intro h
    by_contra hout
    obtain ⟨hout, hraises⟩ := not_or.mp hout
    obtain ⟨hnone, e, he⟩ := h.refused hout
    cases hlsp : turn.server g lease.sessionId with
    | error e => exact hraises ⟨e, hlsp⟩
    | ok proc =>
        -- The empty answer is no refusal.
        cases proc with
        | none =>
            rw [openFile_of_none hlsp] at he
            cases he
        | some proc =>
            cases hnul : hasNul filePath with
            | true =>
                rw [openFile_of_nul hlsp hnul] at he
                cases he
            | false =>
                have hlook : Access.exists (resolve lease.workspacePath filePath) ∈
                    (openFile g σ turn lease filePath empty ask).calls :=
                  exists_mem_openFile hlsp hnul
                rw [hnone] at hlook
                cases hlook
  · rintro (hin | ⟨e, he⟩)
    · refine ⟨fun a ha => ?_, fun hout => absurd hin hout⟩
      have hpath : a.path = resolve lease.workspacePath filePath := openFile_path a ha
      show lease.workspacePath <+: a.path
      rw [hpath]
      exact hin
    · rw [openFile_of_error he]
      exact ⟨nofun, fun _ => ⟨rfl, e, rfl⟩⟩

/-- So do the routes that use it. -/
theorem route_staysIn_iff {β : Type} {sid filePath : String} {empty : β} {ask : String → β}
    {route : Eff Access PyError β}
    (hroute : route = inSession σ sid fun lease =>
      openFile g σ turn lease filePath empty ask) :
    (∀ lease, σ.sessions sid = some lease → StaysIn lease.workspacePath filePath route) ↔
      StaysPut g σ turn sid filePath := by
  subst hroute
  cases hs : σ.sessions sid with
  | none => simp [StaysPut, hs]
  | some lease =>
      simp only [inSession, hs, Option.some.injEq, forall_eq', StaysPut, openFile_staysIn_iff]

/-- **A patch is confined.** -/
theorem applyPatch_confined (sid : String) (files : Patch) {lease : Lease}
    (hlease : σ.sessions sid = some lease) :
    (∀ w ∈ (applyPatch lease.workspacePath sid files).calls, lease.workspacePath <+: w.file) ∧
      ∀ key ∈ files.paths, ¬ InRoot lease.workspacePath key →
        ∃ e, (applyPatchRoute σ sid files).2 = .error e := by
  refine ⟨fun w hw => ?_, fun key hkey hout => ?_⟩
  · rw [applyPatch_calls] at hw
    obtain ⟨key, -, hfile⟩ := mem_writeFiles hw
    exact (resolveUnderRoot_ok hfile).2
  · obtain ⟨e, he⟩ := applyPatch_refused sid hkey hout
    simp only [applyPatchRoute, hlease, applyPatchFiles, he]
    split
    · exact ⟨e, rfl⟩
    · exact ⟨_, rfl⟩

/-- An identifier with a NUL is refused without a look. -/
theorem createSessionRoute_nul {fid : String} (hnul : hasNul fid = true) (uuid : Uuid)
    (copied : Copied) :
    (createSessionRoute g σ fid uuid copied).calls = [] ∧
      ∃ e, (createSessionRoute g σ fid uuid copied).result = .error e := by
  have hbase : baseExists g σ.fs fid = false := by simp [baseExists, hnul]
  refine ⟨if_pos hnul, .fileNotFoundError ("Snapshot not found for " ++ fid), ?_⟩
  simp [createSessionRoute, createSession, hbase]

/-- A new session looks at a base of the store exactly where its identifier names one, or where
it does not look. -/
theorem createSession_confined_iff {fid : String} {uuid : Uuid} {copied : Copied} :
    Confined g σ turn server (.createSession fid uuid copied) ↔
      NamesSnapshot g fid ∨ hasNul fid = true := by
  cases hnul : hasNul fid with
  | true =>
      obtain ⟨hcalls, herror⟩ := createSessionRoute_nul (g := g) (σ := σ) hnul uuid copied
      refine iff_of_true ⟨fun a ha => ?_, fun _ => ⟨hcalls, herror⟩⟩ (.inr rfl)
      rw [hcalls] at ha
      cases ha
  | false =>
      have hcalls : (createSessionRoute g σ fid uuid copied).calls = .exists (g.basePath fid) ::
          if baseExists g σ.fs fid then [.copytree (g.basePath fid)] else [] :=
        if_neg (by simp [hnul])
      have hpath : Eff.Only (fun a => a.path = g.basePath fid)
          (createSessionRoute g σ fid uuid copied) := by
        intro a ha
        rw [hcalls] at ha
        rcases List.mem_cons.mp ha with rfl | ha
        · rfl
        · split at ha
          · rw [List.mem_singleton.mp ha]
            rfl
          · cases ha
      constructor
      · rintro ⟨-, hrefused⟩
        refine .inl ?_
        by_contra hout
        obtain ⟨hnone, -⟩ := hrefused hout
        rw [hcalls] at hnone
        cases hnone
      · rintro (⟨name, hname⟩ | hnul')
        · refine ⟨fun a ha => ⟨name, ?_⟩, fun hout => absurd ⟨name, hname⟩ hout⟩
          rw [hpath a ha, GatewayConfig.basePath, hname]
        · cases hnul'

end

/-- **Where requests that name a path are confined.** -/
theorem paths_confined_iff {T : Type} [LinearOrder T] (g : GatewayConfig) (σ : GatewayState)
    (turn : LspTurn T) (server : LspServer) (request : PathRequest) :
    Confined g σ turn server request ↔ InPlace g σ turn request := by
  cases request with
  | applyPatch sid files =>
      exact ⟨fun _ => trivial, fun _ lease hlease => applyPatch_confined sid files hlease⟩
  | interactiveCheck sid filePath => exact route_staysIn_iff rfl
  | goal sid filePath line column goalKind => exact route_staysIn_iff rfl
  | hover sid filePath line column => exact route_staysIn_iff rfl
  | definition sid filePath line column => exact route_staysIn_iff rfl
  | createSession fid uuid copied => exact createSession_confined_iff

namespace Scripted

/-- A session, and a patch that makes a directory `base` in its workspace. -/
def planted : List GatewayAction :=
  [.openEnvironment time { repoId := "demo" } (fun _ => some (repo "x")) .whole,
    .createSession "b2" (uuid "0") .whole,
    .applyPatch "sess_0" [("base/Main.lean", "y")]]

/-- The identifier that leads there. -/
def elsewhere : String := "../overlays/sess_0/work"

/-- A language server that says nothing. -/
def silent : LspServer where
  diagnostics _ := []
  goal _ _ _ _ := []
  hover _ _ _ := ""
  definition _ _ _ := []

/-- No language server runs, and none can be run. -/
def noServer : LspTurn Nat where
  decoder := .exact JsonText.noFloats
  servers := {}
  now := 0
  exchange := { runs := false, sent := .text [] fun _ => true }

theorem elsewhere_names_no_snapshot : ¬ NamesSnapshot store elsewhere := by
  rintro ⟨name, hname⟩
  have hlen := congrArg List.length hname
  rw [List.length_append, List.length_singleton] at hlen
  exact absurd hlen (by decide +kernel)

end Scripted

/-- **A session whose base is in another session's workspace**: it is created. -/
theorem paths_confined_fails :
    ¬ Confined Scripted.store (run (GatewayAction.step Scripted.store) (.fresh Scripted.store)
        Scripted.planted) Scripted.noServer Scripted.silent
      (.createSession Scripted.elsewhere (Scripted.uuid "1") .whole) ∧
    (createSession Scripted.store (run (GatewayAction.step Scripted.store)
      (.fresh Scripted.store) Scripted.planted) Scripted.elsewhere (Scripted.uuid "1")
        .whole).2.isOk := by
  refine ⟨fun h => ?_, by decide +kernel⟩
  rcases createSession_confined_iff.mp h with hname | hnul
  · exact Scripted.elsewhere_names_no_snapshot hname
  · exact absurd hnul (by decide)

end Gateway

end ObligationRuntime
