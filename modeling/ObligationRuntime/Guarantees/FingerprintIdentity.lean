/-
  ObligationRuntime.Guarantees.FingerprintIdentity — what a fingerprint identifies.

  `fingerprint_id` is the digest of the canonical text of `model_dump`, without the time
  and the schema version.  That text can be read in one way only, up to the order of
  keys; `model_dump` writes its keys in one order and each field as it is, so fields that
  differ are texts that differ.

  Main results:
    * `fingerprintId_eq` — what is hashed,
    * `fingerprint_identity` — the text and the identifier say everything they are made of.
-/
import ObligationRuntime.Gateway.Fingerprint
import ObligationRuntime.Lib.CanonicalText

namespace ObligationRuntime

open Py JsonText CanonicalJson

namespace Gateway

/-- What `model_dump` leaves out for `fingerprint_id`. -/
def excludedKeys : List String := ["created_at", "schema_version"]

/-- `self.model_dump(mode="json", exclude={"created_at", "schema_version"})`. -/
def hashedDump (env : EnvironmentFingerprint) : Dict :=
  env.dump.filter fun m => decide (m.1 ∉ excludedKeys)

theorem plainOpt_toJson (x : Option String) : (plainOpt x).toJson = optStr.dump x := by
  cases x <;> rfl

theorem membersOf_hashedPayload (env : EnvironmentFingerprint) :
    membersOf (hashedPayload env) = hashedDump env := by
  have hflags : Json.arr (env.buildFlags.map .str) = strList.dump env.buildFlags := rfl
  cases hpackages : env.importedPackages with
  | none =>
      simp only [membersOf, hashedPayload, List.map_cons, List.map_nil, plainOpt_toJson, hpackages]
      simp [hashedDump, EnvironmentFingerprint.dump, VersionedRecord.dump, excludedKeys,
        Plain.toJson, hflags, hpackages]
      rfl
  | some packages =>
      simp only [membersOf, hashedPayload, List.map_cons, List.map_nil, plainOpt_toJson, hpackages]
      simp [hashedDump, EnvironmentFingerprint.dump, VersionedRecord.dump, excludedKeys,
        Plain.toJson, hflags, hpackages]
      rfl

/-- **What is hashed**: the canonical text of what is dumped. -/
theorem fingerprintId_eq (F : FloatText) (sha : Sha256) (env : EnvironmentFingerprint) :
    fingerprintId sha env = sha.hexdigest (canonicalText F (.obj (hashedDump env))).toUTF8 := by
  rw [← membersOf_hashedPayload, ← canonicalDumps_eq]
  rfl

/-- **Fingerprint identity.**  The canonical text of values without floats says everything
but the order of keys; where digests do not collide, an identifier says every field of
what it was made of but the time and the schema version. -/
theorem fingerprint_identity (F : FloatText) {sha : Sha256}
    (hsha : Function.Injective sha.hexdigest) :
    (∀ v w : Json, v.UniqueKeys → w.UniqueKeys → v.all Json.integral = true →
      w.all Json.integral = true → (canonicalText F v = canonicalText F w ↔ v.Reordered w)) ∧
    (∀ env env' : EnvironmentFingerprint,
      fingerprintId sha env = fingerprintId sha env' ↔
        { env with schemaVersion := env'.schemaVersion, createdAt := env'.createdAt } = env') ∧
    ∀ env : EnvironmentFingerprint,
      fingerprintId sha env = sha.hexdigest (canonicalText F (.obj (hashedDump env))).toUTF8 := by
  refine ⟨?_, ?_, ?_⟩
  · intro v w hkeys _ hv hw
    exact canonicalText_eq_iff hkeys hv hw
  · intro env env'
    exact fingerprintId_eq_iff_agree hsha
  · exact fingerprintId_eq F sha

namespace Scripted

/-- A time, and a later one. -/
def earlier : Timestamp := ⟨"2026-07-01T00:00:00Z", by decide⟩

def later : Timestamp := ⟨"2026-07-02T00:00:00Z", by decide⟩

/-- A fingerprint without build flags, made at some time. -/
def someEnv (createdAt : Timestamp) (packages : Option (List String)) : EnvironmentFingerprint where
  createdAt
  repoId := "repo"
  commitSha := "abc"
  leanToolchain := "lean"
  lakefileHash := "00"
  importedPackages := packages

/-- Keys in another order have one text; nothing and no packages have two identifiers, and
the time none. -/
theorem fingerprint_identity_scripted :
    canonicalText noFloats (.obj [("b", .int 2), ("a", .int 1)]) =
        canonicalText noFloats (.obj [("a", .int 1), ("b", .int 2)]) ∧
      fingerprintId hexSha (someEnv earlier none) ≠
        fingerprintId hexSha (someEnv earlier (some [])) ∧
      fingerprintId hexSha (someEnv earlier none) =
        fingerprintId hexSha (someEnv later none) := by
  obtain ⟨htext, hid, -⟩ := fingerprint_identity noFloats hexSha_injective
  refine ⟨?_, ?_, ?_⟩
  · refine (htext _ _ (by decide) (by decide) (by decide) (by decide)).mpr ?_
    exact ⟨_, [("b", .int 2), ("a", .int 1)], rfl, .swap _ _ _,
      _, _, rfl, rfl, _, _, rfl, rfl, rfl⟩
  · intro h
    have hagree := (hid _ _).mp h
    have hpackages := congrArg EnvironmentFingerprint.importedPackages hagree
    cases hpackages
  · exact (hid _ _).mpr rfl

end Scripted

end Gateway

end ObligationRuntime
