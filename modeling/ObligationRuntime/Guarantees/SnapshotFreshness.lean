/-
  ObligationRuntime.Guarantees.SnapshotFreshness — whether the snapshot an open returns
  is the repository it was asked for.

  A base is made once for each fingerprint, of the whole tree, and the fingerprint covers
  three files of it.  So what an open returns is the repository as it was at the first
  open of the same key, and it is fresh exactly where the repository has not changed
  since.

  Main results:
    * `stocked_step` — where the bases of a gateway come from,
    * `snapshots_fresh_iff` — the sequences of opens whose snapshots are fresh,
    * `snapshots_fresh_fails` — a module edited between two opens.
-/
import ObligationRuntime.Guarantees.Isolation

namespace ObligationRuntime

open Py Posix FileTree Transition

namespace Gateway

/-! ## §1. Opens, and what they return. -/

/-- An open, with the repository as it is on the disk at that time. -/
structure OpenCall where
  now : Timestamp
  payload : OpenEnvironmentRequest
  repo : Repo

namespace OpenCall

/-- The request. -/
def action (c : OpenCall) : GatewayAction :=
  .openEnvironment c.now c.payload (fun _ => some c.repo) .whole

/-- What the open answers. -/
def answer (g : GatewayConfig) (σ : GatewayState) (c : OpenCall) :
    Except PyError OpenEnvironmentResponse :=
  (openEnvironment g σ c.now c.payload (fun _ => some c.repo) .whole).2

/-- What the fingerprint of the open is made of. -/
def key (c : OpenCall) : Except PyError SnapshotKey :=
  SnapshotKey.ofRepo c.repo c.payload.repoId c.payload.commit c.payload.repoUrl

end OpenCall

/-- The gateway after the opens. -/
def afterOpens (g : GatewayConfig) (σ : GatewayState) (calls : List OpenCall) : GatewayState :=
  run (GatewayAction.step g) σ (calls.map OpenCall.action)

/-- **Snapshots are fresh**: the base an open returns is the repository at that open. -/
def SnapshotsFresh (g : GatewayConfig) (σ : GatewayState) (calls : List OpenCall) : Prop :=
  ∀ pre c post r, calls = pre ++ c :: post → c.answer g (afterOpens g σ pre) = .ok r →
    sub (afterOpens g σ (pre ++ [c])).fs (g.basePath r.fingerprintId) = c.repo.entry

/-- Opens that share the repository's name, url and commit, the text of the toolchain, the
lakefile and the manifest see the same repository. -/
def KeysTell (calls : List OpenCall) : Prop :=
  calls.Pairwise fun c c' => ∀ key, c.key = .ok key → c'.key = .ok key → c.repo = c'.repo

/-! ## §2. One open. -/

section

variable {g : GatewayConfig} {σ : GatewayState} {c : OpenCall}

/-- The identifier of a key. -/
def SnapshotKey.id (g : GatewayConfig) (now : Timestamp) (key : SnapshotKey) : String :=
  fingerprintId g.sha (key.fingerprint now g.sha)

/-- The identifier does not tell the time. -/
theorem SnapshotKey.id_now (now now' : Timestamp) (key : SnapshotKey) :
    key.id g now = key.id g now' := rfl

/-- Where the bases of a gateway come from: each is the repository of an earlier open of
its key, every open has left one, and elsewhere there is nothing. -/
structure Stocked (g : GatewayConfig) (done : List OpenCall) (σ : GatewayState) : Prop where
  separate : Separate g σ
  room : ∀ b, σ.fs (g.basePath (g.sha.hexdigest b)) = none →
    ∀ p, σ.fs (g.envRoot ++ (g.sha.hexdigest b).toList :: p) = none
  made : ∀ b, (σ.fs (g.basePath (g.sha.hexdigest b))).isSome →
    ∃ c ∈ done, ∃ key, c.key = .ok key ∧ key.id g c.now = g.sha.hexdigest b ∧
      sub σ.fs (g.basePath (g.sha.hexdigest b)) = c.repo.entry
  kept : ∀ c ∈ done, ∀ key, c.key = .ok key → (σ.fs (g.basePath (key.id g c.now))).isSome

/-- An open whose repository cannot be read. -/
theorem open_of_error {e : PyError} (hkey : c.key = .error e) :
    c.action.step g σ = σ ∧ c.answer g σ = .error e := by
  have hbuild : buildFromRepo c.now g.sha c.repo c.payload.repoId c.payload.commit
      c.payload.repoUrl = .error e := by
    rw [buildFromRepo, show SnapshotKey.ofRepo .. = _ from hkey]
    rfl
  simp only [OpenCall.action, OpenCall.answer, GatewayAction.step, openEnvironment, hbuild,
    and_self]

/-- An open whose snapshot is there, or has room. -/
theorem open_of_key {done : List OpenCall} {key : SnapshotKey} (h : Stocked g done σ)
    (hkey : c.key = .ok key) :
    c.action.step g σ =
        { σ with fs := (ensureSnapshot g σ.fs (key.fingerprint c.now g.sha) c.repo .whole).1 } ∧
      ∃ r, c.answer g σ = .ok r ∧ r.fingerprintId = key.id g c.now := by
  have hbuild : buildFromRepo c.now g.sha c.repo c.payload.repoId c.payload.commit
      c.payload.repoUrl = .ok (key.fingerprint c.now g.sha) := by
    rw [buildFromRepo, show SnapshotKey.ofRepo .. = _ from hkey]
    rfl
  have hok := ensureSnapshot_room (key.fingerprint c.now g.sha) c.repo h.separate.env (h.room _)
  simp only [OpenCall.action, OpenCall.answer, GatewayAction.step, openEnvironment, hbuild]
  rcases hens : ensureSnapshot g σ.fs (key.fingerprint c.now g.sha) c.repo .whole with ⟨fs, res⟩
  rw [hens] at hok
  simp only at hok
  subst hok
  exact ⟨rfl, _, rfl, rfl⟩

/-- An open that leaves the gateway as it is: it raised, or its base is there. -/
theorem Stocked.unchanged {done : List OpenCall} (h : Stocked g done σ)
    (hbase : ∀ key, c.key = .ok key → (σ.fs (g.basePath (key.id g c.now))).isSome) :
    Stocked g (done ++ [c]) σ := by
  refine ⟨h.separate, h.room, fun b hb => ?_, fun c' hc' key hkey => ?_⟩
  · obtain ⟨c', hc', hrest⟩ := h.made b hb
    exact ⟨c', List.mem_append_left _ hc', hrest⟩
  · rcases List.mem_append.mp hc' with hc' | hc'
    · exact h.kept c' hc' key hkey
    · rw [List.mem_singleton.mp hc'] at hkey ⊢
      exact hbase key hkey

/-- An open that makes the base of its key: the other ones are as they were. -/
theorem Stocked.added {done : List OpenCall} {key : SnapshotKey} {σ' : GatewayState}
    (h : Stocked g done σ) (hsep : Separate g σ') (hkey : c.key = .ok key)
    (hout : SameOutside (g.envRoot ++ [(key.id g c.now).toList]) σ.fs σ'.fs)
    (hnew : sub σ'.fs (g.basePath (key.id g c.now)) = c.repo.entry) :
    Stocked g (done ++ [c]) σ' := by
  have hthere : (σ'.fs (g.basePath (key.id g c.now))).isSome := by
    have hroot := congrFun hnew []
    rw [sub_apply, List.append_nil, c.repo.root] at hroot
    rw [hroot]
    rfl
  have hold : ∀ b, g.sha.hexdigest b ≠ key.id g c.now →
      σ'.fs (g.basePath (g.sha.hexdigest b)) = σ.fs (g.basePath (g.sha.hexdigest b)) := by
    intro b hb
    simpa [sub_apply] using congrFun (other_base hb hout) []
  -- No base is missing that was there, and the new one is whole.
  refine ⟨hsep, fun b hb p => ?_, fun b hb => ?_, fun c' hc' key' hkey' => ?_⟩
  · by_cases hid : g.sha.hexdigest b = key.id g c.now
    · rw [hid] at hb
      rw [hb] at hthere
      cases hthere
    · rw [hout _ (snapshots_apart (Ne.symm hid) [] p).1]
      rw [hold b hid] at hb
      exact h.room b hb p
  · by_cases hid : g.sha.hexdigest b = key.id g c.now
    · refine ⟨c, by simp, key, hkey, hid.symm, ?_⟩
      rw [hid]
      exact hnew
    · rw [hold b hid] at hb
      obtain ⟨c', hc', key', hkey', hid', hsub⟩ := h.made b hb
      refine ⟨c', List.mem_append_left _ hc', key', hkey', hid', ?_⟩
      rw [← hsub]
      exact other_base hid hout
  · rcases List.mem_append.mp hc' with hc' | hc'
    · by_cases hid : key'.id g c'.now = key.id g c.now
      · rw [hid]
        exact hthere
      · -- The base of another key stays.
        have hsame : σ'.fs (g.basePath (key'.id g c'.now)) = σ.fs (g.basePath (key'.id g c'.now)) :=
          hold _ hid
        rw [hsame]
        exact h.kept c' hc' key' hkey'
    · rw [List.mem_singleton.mp hc', hkey] at hkey'
      obtain rfl := Except.ok.inj hkey'
      rw [List.mem_singleton.mp hc']
      exact hthere

/-- **Where the bases come from, after one more open.** -/
theorem stocked_step {done : List OpenCall} (h : Stocked g done σ) :
    Stocked g (done ++ [c]) (c.action.step g σ) := by
  have hsep : Separate g (c.action.step g σ) := separate_step _ h.separate nofun
  cases hkey : c.key with
  | error e =>
      rw [(open_of_error hkey).1]
      refine h.unchanged fun key hk => ?_
      rw [hkey] at hk
      cases hk
  | ok key =>
      have hstep := (open_of_key h hkey).1
      rcases ensureSnapshot_cases .whole (key.fingerprint c.now g.sha) c.repo h.separate.env with
        ⟨hbase, hsame⟩ | ⟨-, hout, hok⟩
      · have hσ : c.action.step g σ = σ := by rw [hstep, hsame]
        rw [hσ]
        refine h.unchanged fun key' hk => ?_
        rw [hkey] at hk
        obtain rfl := Except.ok.inj hk
        exact hbase
      · obtain ⟨-, hsub⟩ := hok (ensureSnapshot_room _ _ h.separate.env (h.room _))
        refine h.added hsep hkey ?_ ?_
        · rw [hstep]
          exact hout
        · rw [hstep]
          exact hsub

/-- The bases after the opens. -/
theorem stocked_run (calls : List OpenCall) :
    Stocked g calls (afterOpens g (.fresh g) calls) := by
  induction calls using List.reverseRecOn with
  | nil =>
      have hsep := (fresh_started g).separate
      have hnone : ∀ name p, (GatewayState.fresh g).fs (g.envRoot ++ name :: p) = none := by
        intro name p
        have hover : ¬ g.envRoot ++ name :: p <+: g.overlayRoot := by
          simpa using (env_apart_overlay (g := g) (name :: p) []).1
        simp [GatewayState.fresh, hover, below_not_above]
      refine ⟨hsep, fun b _ p => hnone _ p, fun b hb => ?_, fun c hc => by cases hc⟩
      rw [basePath_digest] at hb
      rw [show (afterOpens g (.fresh g) []) = .fresh g from rfl] at hb
      rw [hnone] at hb
      cases hb
  | append_singleton calls c ih =>
      have hrun : afterOpens g (.fresh g) (calls ++ [c]) =
          c.action.step g (afterOpens g (.fresh g) calls) := by
        rw [afterOpens, List.map_append, run_append]
        rfl
      rw [hrun]
      exact stocked_step ih

theorem afterOpens_append (g : GatewayConfig) (σ : GatewayState) (pre calls : List OpenCall) :
    afterOpens g σ (pre ++ calls) = afterOpens g (afterOpens g σ pre) calls := by
  rw [afterOpens, List.map_append, run_append]
  rfl

/-- Opens keep a base that is there. -/
theorem base_opens (calls : List OpenCall) (b : ByteArray) (h : Separate g σ)
    (hbase : (σ.fs (g.basePath (g.sha.hexdigest b))).isSome) :
    sub (afterOpens g σ calls).fs (g.basePath (g.sha.hexdigest b)) =
      sub σ.fs (g.basePath (g.sha.hexdigest b)) := by
  have hids : (calls.map OpenCall.action).filterMap GatewayAction.newId = [] := by
    simp [List.filterMap_eq_nil_iff, OpenCall.action, GatewayAction.newId]
  refine base_run h (meets_freshId h ?_ ?_) hbase
  · simp [hids]
  · simp [hids]

/-! ## §3. Fresh snapshots. -/

theorem pairwise_of_split {α : Type} {R : α → α → Prop} {l : List α}
    (h : ∀ pre a mid b post, l = pre ++ a :: (mid ++ b :: post) → R a b) : l.Pairwise R := by
  induction l with
  | nil => exact List.Pairwise.nil
  | cons a l ih =>
      refine List.pairwise_cons.mpr ⟨fun b hb => ?_, ih fun pre c mid d post hl => ?_⟩
      · obtain ⟨mid, post, rfl⟩ := List.append_of_mem hb
        exact h [] a mid b post rfl
      · exact h (a :: pre) c mid d post (by rw [hl]; rfl)

/-- Fresh snapshots tell the repositories of a key apart. -/
theorem keysTell_of_fresh {calls : List OpenCall} (h : SnapshotsFresh g (.fresh g) calls) :
    KeysTell calls := by
  refine pairwise_of_split fun pre c mid c' post hcalls key hkey hkey' => ?_
  have hstock := stocked_run (g := g) (pre ++ [c])
  have hstock' := stocked_run (g := g) (pre ++ c :: mid)
  have hsplit : pre ++ c :: mid = (pre ++ [c]) ++ mid := by simp
  -- The first open leaves the repository it saw, and the base is kept until the second.
  obtain ⟨r, hr, hid⟩ := (open_of_key (stocked_run (g := g) pre) hkey).2
  have hfirst := h pre c (mid ++ c' :: post) r hcalls hr
  rw [hid] at hfirst
  have hbase := hstock.kept c (by simp) key hkey
  have hkeep := base_opens (mid ++ [c']) _ hstock.separate hbase
  -- The second open returns the same base.
  obtain ⟨r', hr', hid'⟩ := (open_of_key hstock' hkey').2
  have hsecond := h (pre ++ c :: mid) c' post r' (by rw [hcalls]; simp) hr'
  rw [hid', SnapshotKey.id_now c'.now c.now, hsplit, List.append_assoc,
    afterOpens_append] at hsecond
  exact Directory.ext (hfirst.symm.trans (hkeep.symm.trans hsecond))

/-- Where keys tell repositories apart, snapshots are fresh. -/
theorem fresh_of_keysTell {calls : List OpenCall} (hsha : Function.Injective g.sha.hexdigest)
    (h : KeysTell calls) : SnapshotsFresh g (.fresh g) calls := by
  rintro pre c post r rfl hr
  have hstock := stocked_run (g := g) pre
  rw [afterOpens_append]
  show sub (c.action.step g (afterOpens g (.fresh g) pre)).fs _ = _
  cases hkey : c.key with
  | error e =>
      rw [(open_of_error hkey).2] at hr
      cases hr
  | ok key =>
      obtain ⟨hstep, r', hr', hid⟩ := open_of_key hstock hkey
      obtain rfl := Except.ok.inj (hr'.symm.trans hr)
      rw [hid, hstep]
      rcases ensureSnapshot_cases .whole (key.fingerprint c.now g.sha) c.repo
        hstock.separate.env with ⟨hbase, hsame⟩ | ⟨-, -, hok⟩
      · -- The base was made by an earlier open of the same key.
        rw [hsame]
        obtain ⟨c', hc', key', hkey', hid', hsub⟩ := hstock.made _ hbase
        have hsamekey : key' = key := (fingerprintId_eq_iff hsha).mp hid'
        have hrepo : c'.repo = c.repo :=
          (List.pairwise_append.mp h).2.2 c' hc' c (List.mem_cons_self ..) key
            (hsamekey ▸ hkey') hkey
        rw [← hrepo]
        exact hsub
      · exact (hok (ensureSnapshot_room _ _ hstock.separate.env (hstock.room _))).2

end

/-- **Where snapshots are fresh**: in the sequences of opens, with any changes of the
repositories in between, whose keys tell the repositories apart, and in no others. -/
theorem snapshots_fresh_iff (g : GatewayConfig) (hsha : Function.Injective g.sha.hexdigest)
    (calls : List OpenCall) : SnapshotsFresh g (.fresh g) calls ↔ KeysTell calls :=
  ⟨keysTell_of_fresh, fresh_of_keysTell hsha⟩

namespace Scripted

/-- An open of the repository with this module. -/
def openCall (module : String) : OpenCall := ⟨time, { repoId := "demo" }, repo module⟩

/-- The key of the scripted opens. -/
def demoKey : SnapshotKey where
  repoId := "demo"
  repoUrl := none
  commitSha := "HEAD"
  toolchain := "lean4"
  lakefile := "name".toUTF8
  manifest := none

/-- The toolchain is read as text. -/
theorem repo_toolchain (module : String) :
    (repo module).readText "lean-toolchain" = .ok "lean4" := by
  have hbytes : (repo module).readBytes "lean-toolchain" = .ok "lean4".toUTF8 := rfl
  have htext : String.fromUTF8? "lean4".toUTF8 = some "lean4" := by decide
  have hlines : String.ofList (universalNewlines "lean4".toList) = "lean4" := by decide
  simp only [Repo.readText, hbytes, htext, hlines]

/-- The module is no part of the key. -/
theorem openCall_key (module : String) : (openCall module).key = .ok demoKey := by
  have hlean : (repo module).exists "lean-toolchain" = true := rfl
  have htoml : (repo module).exists "lakefile.toml" = true := rfl
  have hmanifest : (repo module).exists "lake-manifest.json" = false := rfl
  have hstrip : strip "lean4" = "lean4" := by decide
  have hrepo : (openCall module).repo = repo module := rfl
  simp only [OpenCall.key, SnapshotKey.ofRepo, lakefileName, hrepo, hlean, htoml, hmanifest,
    repo_toolchain]
  exact congrArg (fun text => Except.ok { demoKey with toolchain := text }) hstrip

end Scripted

/-- **A module edited between two opens**: the second returns the first's tree. -/
theorem snapshots_fresh_fails :
    ¬ SnapshotsFresh Scripted.gateway (.fresh Scripted.gateway)
      [Scripted.openCall "x", Scripted.openCall "y"] := by
  intro h
  have htell := keysTell_of_fresh h
  have hrepo := (List.pairwise_cons.mp htell).1 (Scripted.openCall "y") (by simp)
    Scripted.demoKey (Scripted.openCall_key "x") (Scripted.openCall_key "y")
  have hentry := congrFun (congrArg Directory.entry hrepo) ["Main.lean".toList]
  exact absurd hentry (by decide)

/-- An unchanged repository, opened twice. -/
theorem snapshots_fresh_unchanged :
    SnapshotsFresh Scripted.gateway (.fresh Scripted.gateway)
      [Scripted.openCall "x", Scripted.openCall "x"] :=
  (snapshots_fresh_iff Scripted.gateway Scripted.hexSha_injective _).mpr (by simp [KeysTell])

end Gateway

end ObligationRuntime
