/-
  ObligationRuntime.Guarantees.FingerprintFallback — `finalize` on a fingerprint that does
  not validate.

  Where the mapping in the state is no `EnvironmentFingerprint`, `finalize` builds one
  from four empty texts and whatever the mapping has under the same four names.  The call
  names each of them, and then spreads them, so any one that is there is passed twice:
  the call raises, and the accepted run leaves no witness.

  Main results:
    * `fingerprintOf_valid`, `fingerprintOf_bare`, `fingerprintOf_doubled` — the three
      ways the fingerprint of a bundle is made,
    * `run_finalize_lost` — what is left of a run that raises there,
    * `finalize_total_iff` — the mappings that `finalize` takes,
    * `finalize_total_fails` — a partial fingerprint.
-/
import ObligationRuntime.Lib.DictUpdate
import ObligationRuntime.Runtime.Runs

namespace ObligationRuntime

open Py Flow Handlers

/-! ## §1. The property. -/

/-- The mapping validates. -/
def EnvironmentFingerprint.Valid (deps : Deps) (env : Dict) : Prop :=
  ∃ fp, EnvironmentFingerprint.validateBy deps.readTime deps.now (.obj env) = .ok fp

/-- One of the four names is a key of the mapping. -/
def NamesIdentity (env : Dict) : Prop := ∃ kv ∈ env, kv.1 ∈ fallbackKeys

instance (env : Dict) : Decidable (NamesIdentity env) :=
  inferInstanceAs (Decidable (∃ kv ∈ env, kv.1 ∈ fallbackKeys))

/-- The text under a key, empty where there is none. -/
def textAt (env : Dict) (key : String) : String :=
  match Dict.get? env key with
  | some (.str s) => s
  | _ => ""

/-- The fingerprint keeps the four texts of the mapping. -/
structure KeepsTexts (env : Dict) (fp : EnvironmentFingerprint) : Prop where
  repoId : fp.repoId = textAt env "repo_id"
  commitSha : fp.commitSha = textAt env "commit_sha"
  leanToolchain : fp.leanToolchain = textAt env "lean_toolchain"
  lakefileHash : fp.lakefileHash = textAt env "lakefile_hash"

/-- The state with a mapping for its fingerprint. -/
def State.withFingerprint (s : State) (env : Dict) : State :=
  { s with environmentFingerprint := some (.obj env) }

/-- **`finalize` is total on a fingerprint**: it does not raise, it appends one bundle, and
where the mapping is invalid the bundle keeps its texts. -/
def FinalizeTotal (deps : Deps) (s : State) (env : Dict) : Prop :=
  ∃ update b, (finalize deps (s.withFingerprint env)).result = .ok update ∧
    update.artifacts = some (s.artifacts.getD [] ++ [bundleArtifact b]) ∧
    (¬ EnvironmentFingerprint.Valid deps env → KeepsTexts env b.environmentFingerprint)

/-! ## §2. The fingerprint of a bundle. -/

section

variable {deps : Deps} {s : State} {env : Dict}

/-- A valid mapping is kept. -/
theorem fingerprintOf_valid {fp : EnvironmentFingerprint}
    (h : EnvironmentFingerprint.validateBy deps.readTime deps.now (.obj env) = .ok fp) :
    fingerprintOf deps (.obj env) = .ok fp := by
  simp [fingerprintOf, h]

/-- The check of the fallback, as a statement. -/
theorem any_fallbackKeys_iff :
    (env.any fun kv => decide (kv.1 ∈ fallbackKeys)) = true ↔ NamesIdentity env := by
  simp [List.any_eq_true, NamesIdentity]

/-- An invalid mapping without the four names falls back to four empty texts. -/
theorem fingerprintOf_bare (hv : ¬ EnvironmentFingerprint.Valid deps env)
    (hb : ¬ NamesIdentity env) :
    fingerprintOf deps (.obj env) = .ok
      { createdAt := deps.now, repoId := "", commitSha := "", leanToolchain := ""
        lakefileHash := "" } := by
  cases h : EnvironmentFingerprint.validateBy deps.readTime deps.now (.obj env) with
  | ok fp => exact absurd ⟨fp, h⟩ hv
  | error e =>
      rw [fingerprintOf, h]
      exact if_neg fun hany => hb (any_fallbackKeys_iff.mp hany)

/-- **An invalid mapping with one of the four names raises.** -/
theorem fingerprintOf_doubled (hv : ¬ EnvironmentFingerprint.Valid deps env)
    (hb : NamesIdentity env) :
    fingerprintOf deps (.obj env) =
      .error (.typeError "multiple values for keyword argument") := by
  cases h : EnvironmentFingerprint.validateBy deps.readTime deps.now (.obj env) with
  | ok fp => exact absurd ⟨fp, h⟩ hv
  | error e =>
      rw [fingerprintOf, h]
      exact if_pos (any_fallbackKeys_iff.mpr hb)

/-- A mapping without a key has no text under it. -/
theorem textAt_bare {key : String} (hb : ¬ NamesIdentity env) (hk : key ∈ fallbackKeys) :
    textAt env key = "" := by
  have hnone : Dict.get? env key = none := by
    rw [Dict.get?_eq_none_iff]
    intro hkey
    obtain ⟨kv, hkv, rfl⟩ := List.mem_map.mp hkey
    exact hb ⟨kv, hkv, hk⟩
  rw [textAt, hnone]

/-! ## §3. The bundle. -/

/-- The bundle reads its fingerprint from the mapping, also from the empty one. -/
theorem fingerprint_read : ((s.withFingerprint env).environmentFingerprint.getD .null).orElse
    (.obj []) = .obj env := by
  cases env <;> rfl

/-- A bundle is made exactly when its fingerprint is. -/
theorem bundleOf_of_fingerprint {fp : EnvironmentFingerprint}
    (h : fingerprintOf deps (.obj env) = .ok fp) :
    ∃ b, bundleOf deps (s.withFingerprint env) = .ok b ∧ b.environmentFingerprint = fp := by
  rw [bundleOf, fingerprint_read, h]
  exact ⟨_, rfl, rfl⟩

theorem bundleOf_of_raise {e : PyError} (h : fingerprintOf deps (.obj env) = .error e) :
    bundleOf deps (s.withFingerprint env) = .error e := by
  rw [bundleOf, fingerprint_read, h]
  rfl

/-- `finalize` appends the bundle it makes. -/
theorem finalize_of_bundle {b : WitnessBundle}
    (h : bundleOf deps (s.withFingerprint env) = .ok b) :
    ∃ update, (finalize deps (s.withFingerprint env)).result = .ok update ∧
      update.artifacts = some (s.artifacts.getD [] ++ [bundleArtifact b]) := by
  rw [finalize, h]
  exact ⟨_, rfl, rfl⟩

/-- **The run loses its witness**: it raises at `finalize`, and no artifact is added. -/
theorem run_finalize_lost (hv : ¬ EnvironmentFingerprint.Valid deps env)
    (hb : NamesIdentity env) :
    (run deps .finalize (s.withFingerprint env)).error =
        some (.typeError "multiple values for keyword argument") ∧
      (run deps .finalize (s.withFingerprint env)).state.artifacts = s.artifacts := by
  rw [run_finalize_error (bundleOf_of_raise (fingerprintOf_doubled hv hb))]
  exact ⟨rfl, rfl⟩

end

/-- **The fingerprints that `finalize` takes**: the valid ones, and those without any of the
four names. -/
theorem finalize_total_iff (deps : Deps) (s : State) (env : Dict) :
    FinalizeTotal deps s env ↔
      EnvironmentFingerprint.Valid deps env ∨ ¬ NamesIdentity env := by
  constructor
  · rintro ⟨update, b, hu, -, -⟩
    by_contra hno
    obtain ⟨hv, hb⟩ := not_or.mp hno
    rw [finalize, bundleOf_of_raise (fingerprintOf_doubled hv (not_not.mp hb))] at hu
    cases hu
  · intro hcond
    by_cases hv : EnvironmentFingerprint.Valid deps env
    · have hv' := hv
      obtain ⟨fp, hfp⟩ := hv'
      obtain ⟨b, hb, -⟩ := bundleOf_of_fingerprint (s := s) (fingerprintOf_valid hfp)
      obtain ⟨update, hu, hart⟩ := finalize_of_bundle hb
      exact ⟨update, b, hu, hart, fun hno => absurd hv hno⟩
    · have hbare := hcond.resolve_left hv
      obtain ⟨b, hb, hfp⟩ := bundleOf_of_fingerprint (s := s) (fingerprintOf_bare hv hbare)
      obtain ⟨update, hu, hart⟩ := finalize_of_bundle hb
      refine ⟨update, b, hu, hart, fun _ => ?_⟩
      rw [hfp]
      -- Nothing is there to be kept: the four texts are empty on both sides.
      exact ⟨(textAt_bare hbare (by decide)).symm, (textAt_bare hbare (by decide)).symm,
        (textAt_bare hbare (by decide)).symm, (textAt_bare hbare (by decide)).symm⟩

namespace Scripted

/-- The scripted gateway, under the default pack. -/
def bundleDeps : Deps := deps "s1" checked verified pack

/-- A fingerprint that only says which repository it is of. -/
def partialFingerprint : Dict := [("repo_id", .str "demo")]

end Scripted

/-- **A partial fingerprint**: it says which repository it is of, and `finalize` raises. -/
theorem finalize_total_fails :
    let t := State.withFingerprint {} Scripted.partialFingerprint
    (finalize Scripted.bundleDeps t).result =
        .error (.typeError "multiple values for keyword argument") ∧
      ¬ FinalizeTotal Scripted.bundleDeps {} Scripted.partialFingerprint := by
  intro t
  have hraise : (finalize Scripted.bundleDeps t).result =
      .error (.typeError "multiple values for keyword argument") := rfl
  refine ⟨hraise, ?_⟩
  rintro ⟨update, b, hu, -⟩
  cases hraise.symm.trans hu

end ObligationRuntime
