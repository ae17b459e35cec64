/-
  ObligationRuntime.Gateway.Fingerprint — the fingerprint of a repository:
  fingerprint.py, and `fingerprint_id` of environment.py.

  A fingerprint is made of what the caller says of the repository and of three of its
  files: the toolchain by its text, the lakefile and the manifest by their digests.  Its
  identifier is the digest of its canonical JSON text.

  Main results:
    * `fingerprintId_eq_iff_agree` — where digests do not collide, fingerprints share an
      identifier exactly when they agree on all that is hashed,
    * `fingerprintId_eq_iff` — and two of repositories when they are made of the same.
-/
import ObligationRuntime.Lib.CanonicalJson
import ObligationRuntime.Lib.FileTree
import ObligationRuntime.Lib.Text
import ObligationRuntime.Schemas.Evidence

namespace ObligationRuntime

open Py FileTree CanonicalJson

namespace Gateway

/-! ## §1. Digests. -/

/-- `hashlib.sha256(..).hexdigest()`: digests are written in hexadecimal. -/
structure Sha256 where
  hexdigest : ByteArray → String
  hex : ∀ b, hexdigest b ≠ "" ∧ ∀ c ∈ (hexdigest b).toList, c ∈ "0123456789abcdef".toList

/-- Hexadecimal text, tested letter by letter. -/
theorem hexadecimal_of_all {text : String}
    (h : (text.toList.all fun c => decide (c ∈ "0123456789abcdef".toList)) = true) :
    ∀ c ∈ text.toList, c ∈ "0123456789abcdef".toList := by
  intro c hc
  exact of_decide_eq_true (List.all_eq_true.mp h c hc)

/-- `canonical_sha256`. -/
def canonicalSha256 (sha : Sha256) (payload : List (String × Plain)) : String :=
  sha.hexdigest (canonicalDumps payload).toUTF8

/-- `null` for nothing. -/
def plainOpt : Option String → Plain
  | none => .null
  | some s => .str s

/-- What `fingerprint_id` hashes: everything but the time and the schema version. -/
def hashedPayload (env : EnvironmentFingerprint) : List (String × Plain) :=
  [("repo_id", .str env.repoId), ("repo_url", plainOpt env.repoUrl),
    ("commit_sha", .str env.commitSha), ("lean_toolchain", .str env.leanToolchain),
    ("lakefile_hash", .str env.lakefileHash), ("manifest_hash", plainOpt env.manifestHash),
    ("target_platform", .str env.targetPlatform), ("build_flags", .strs env.buildFlags),
    ("os_family", .str env.osFamily.text),
    ("imported_packages", match env.importedPackages with
      | none => .null
      | some packages => .strs packages)]

/-- `fingerprint_id`. -/
def fingerprintId (sha : Sha256) (env : EnvironmentFingerprint) : String :=
  canonicalSha256 sha (hashedPayload env)

/-! ## §2. Files. -/

/-- A name in a directory. -/
abbrev Name := List Char

/-- The files of a repository. -/
abbrev Repo := Directory Name ByteArray

/-- Line ends as a text file is read. -/
def universalNewlines : List Char → List Char
  | [] => []
  | '\r' :: '\n' :: cs => '\n' :: universalNewlines cs
  | '\r' :: cs => '\n' :: universalNewlines cs
  | c :: cs => c :: universalNewlines cs

/-- `path.exists()`, in the root of the repository. -/
def Repo.exists (repo : Repo) (name : String) : Bool := (repo.entry [name.toList]).isSome

/-- `path.read_bytes()`. -/
def Repo.readBytes (repo : Repo) (name : String) : Except PyError ByteArray :=
  match repo.entry [name.toList] with
  | none => .error (.fileNotFoundError name)
  | some .dir => .error (.osError name)
  | some (.file content) => .ok content

/-- `path.read_text(encoding="utf-8")`. -/
def Repo.readText (repo : Repo) (name : String) : Except PyError String :=
  match Repo.readBytes repo name with
  | .error e => .error e
  | .ok content =>
      match String.fromUTF8? content with
      | none => .error (.valueError "utf-8")
      | some text => .ok (String.ofList (universalNewlines text.toList))

/-! ## §3. fingerprint.py -/

/-- What a fingerprint is made of. -/
structure SnapshotKey where
  repoId : String
  repoUrl : Option String
  commitSha : String
  toolchain : String
  lakefile : ByteArray
  manifest : Option ByteArray

/-- The lakefile that counts. -/
def lakefileName (repo : Repo) : String :=
  if Repo.exists repo "lakefile.toml" then "lakefile.toml" else "lakefile.lean"

/-- What `build_from_repo` reads. -/
def SnapshotKey.ofRepo (repo : Repo) (repoId commitSha : String) (repoUrl : Option String) :
    Except PyError SnapshotKey := do
  if ¬ Repo.exists repo "lean-toolchain" then
    throw (.fileNotFoundError "lean-toolchain not found")
  if ¬ Repo.exists repo (lakefileName repo) then
    throw (.fileNotFoundError "lakefile.toml or lakefile.lean not found")
  let toolchain ← Repo.readText repo "lean-toolchain"
  let lakefile ← Repo.readBytes repo (lakefileName repo)
  let manifest ←
    if Repo.exists repo "lake-manifest.json" then some <$> Repo.readBytes repo "lake-manifest.json"
    else pure none
  return { repoId, repoUrl, commitSha, toolchain := strip toolchain, lakefile, manifest }

/-- The fingerprint of what was read. -/
def SnapshotKey.fingerprint (now : Timestamp) (sha : Sha256) (key : SnapshotKey) :
    EnvironmentFingerprint where
  createdAt := now
  repoId := key.repoId
  repoUrl := key.repoUrl
  commitSha := key.commitSha
  leanToolchain := key.toolchain
  lakefileHash := sha.hexdigest key.lakefile
  manifestHash := key.manifest.map sha.hexdigest

/-- `build_from_repo`. -/
def buildFromRepo (now : Timestamp) (sha : Sha256) (repo : Repo) (repoId commitSha : String)
    (repoUrl : Option String) : Except PyError EnvironmentFingerprint :=
  (SnapshotKey.ofRepo repo repoId commitSha repoUrl).map (·.fingerprint now sha)

/-! ## §4. What an identifier says. -/

/-- The canonical order of the hashed fields. -/
theorem sorted_hashedPayload (env : EnvironmentFingerprint) :
    (hashedPayload env).insertionSort (fun m m' => m.1 ≤ m'.1) =
      [("build_flags", .strs env.buildFlags), ("commit_sha", .str env.commitSha),
        ("imported_packages", match env.importedPackages with
          | none => .null
          | some packages => .strs packages),
        ("lakefile_hash", .str env.lakefileHash), ("lean_toolchain", .str env.leanToolchain),
        ("manifest_hash", plainOpt env.manifestHash), ("os_family", .str env.osFamily.text),
        ("repo_id", .str env.repoId), ("repo_url", plainOpt env.repoUrl),
        ("target_platform", .str env.targetPlatform)] := by
  simp [hashedPayload, List.insertionSort, List.orderedInsert]

/-- Texts that may be missing are told apart. -/
theorem plainOpt_injective : Function.Injective plainOpt := by
  rintro (- | a) (- | b) h
  · rfl
  · cases h
  · cases h
  · cases h
    rfl

/-- Families have different texts. -/
theorem osFamily_text_injective {a b : OsFamily} (h : a.text = b.text) : a = b := by
  cases a <;> cases b <;> first | rfl | simp [OsFamily.text] at h

/-- What is hashed says every field but the two left out. -/
theorem hashedPayload_eq_iff {env env' : EnvironmentFingerprint} :
    (hashedPayload env).insertionSort (fun m m' => m.1 ≤ m'.1) =
        (hashedPayload env').insertionSort (fun m m' => m.1 ≤ m'.1) ↔
      { env with schemaVersion := env'.schemaVersion, createdAt := env'.createdAt } = env' := by
  rw [sorted_hashedPayload, sorted_hashedPayload]
  constructor
  · intro h
    simp only [List.cons.injEq, Prod.mk.injEq, Plain.str.injEq, Plain.strs.injEq, true_and,
      and_true] at h
    obtain ⟨hflags, hcommit, hpackages, hlake, htool, hman, hos, hid, hurl, hplatform⟩ := h
    -- The packages are hashed as a list or as null, and each tells itself.
    have himported : env.importedPackages = env'.importedPackages := by
      cases hp : env.importedPackages with
      | none =>
          cases hp' : env'.importedPackages with
          | none => rfl
          | some packages =>
              rw [hp, hp'] at hpackages
              cases hpackages
      | some packages =>
          cases hp' : env'.importedPackages with
          | none =>
              rw [hp, hp'] at hpackages
              cases hpackages
          | some packages' =>
              rw [hp, hp'] at hpackages
              rw [Plain.strs.inj hpackages]
    rw [hflags, hcommit, himported, hlake, htool, plainOpt_injective hman,
      osFamily_text_injective hos, hid, plainOpt_injective hurl, hplatform]
  · intro h
    rw [← h]

/-- **What an identifier says**, where digests do not collide: every field but the time and
the schema version. -/
theorem fingerprintId_eq_iff_agree {sha : Sha256} (hsha : Function.Injective sha.hexdigest)
    {env env' : EnvironmentFingerprint} :
    fingerprintId sha env = fingerprintId sha env' ↔
      { env with schemaVersion := env'.schemaVersion, createdAt := env'.createdAt } = env' := by
  rw [← hashedPayload_eq_iff]
  constructor
  · intro h
    exact dumps_injective (String.toByteArray_inj.mp (hsha h))
  · intro h
    show sha.hexdigest (dumps _).toUTF8 = sha.hexdigest (dumps _).toUTF8
    rw [h]

/-- **What the identifier of a snapshot says**: the key. -/
theorem fingerprintId_eq_iff {now now' : Timestamp} {sha : Sha256}
    (hsha : Function.Injective sha.hexdigest) {key key' : SnapshotKey} :
    fingerprintId sha (key.fingerprint now sha) = fingerprintId sha (key'.fingerprint now' sha) ↔
      key = key' := by
  constructor
  · intro h
    have hagree := (fingerprintId_eq_iff_agree hsha).mp h
    simp only [SnapshotKey.fingerprint, EnvironmentFingerprint.mk.injEq, true_and,
      and_true] at hagree
    obtain ⟨hid, hurl, hcommit, htool, hlake, hman⟩ := hagree
    have hmanifest : key.manifest = key'.manifest := Option.map_injective hsha hman
    cases key
    cases key'
    simp only at hcommit hlake htool hid hurl hmanifest
    rw [hcommit, hsha hlake, htool, hid, hurl, hmanifest]
  · rintro rfl
    exact (fingerprintId_eq_iff_agree hsha).mpr rfl

namespace Scripted

/-- The hexadecimal digits of a byte. -/
def hexByte (b : UInt8) : List Char :=
  [Nat.digitChar (b.toNat / 16), Nat.digitChar (b.toNat % 16)]

/-- The digits below sixteen are hexadecimal. -/
theorem digitChar_hex : ∀ n < 16, Nat.digitChar n ∈ "0123456789abcdef".toList := by decide

/-- A byte is written in hexadecimal digits. -/
theorem hexByte_hex (b : UInt8) : ∀ c ∈ hexByte b, c ∈ "0123456789abcdef".toList := by
  have hb : b.toNat < 256 := b.toNat_lt
  intro c hc
  rcases List.mem_pair.mp hc with rfl | rfl
  · exact digitChar_hex (b.toNat / 16) (by omega)
  · exact digitChar_hex (b.toNat % 16) (by omega)

/-- Read a byte. -/
def readByte : List Char → Option (UInt8 × List Char)
  | x :: y :: r => do
      let high ← JsonText.hexDigit x
      let low ← JsonText.hexDigit y
      return (UInt8.ofNat (high * 16 + low), r)
  | _ => none

/-- The digits of a byte say which byte it is. -/
theorem delimited_hexByte : Delimited hexByte := by
  refine .of_read readByte fun b r => ?_
  have hb : b.toNat < 256 := b.toNat_lt
  have hvalue : b.toNat / 16 * 16 + b.toNat % 16 = b.toNat := by omega
  show (do
    let high ← JsonText.hexDigit (Nat.digitChar (b.toNat / 16))
    let low ← JsonText.hexDigit (Nat.digitChar (b.toNat % 16))
    return (UInt8.ofNat (high * 16 + low), r)) = some (b, r)
  rw [JsonText.hexDigit_digitChar (b.toNat / 16) (by omega),
    JsonText.hexDigit_digitChar (b.toNat % 16) (by omega)]
  simp only [Option.bind_eq_bind, Option.bind_some, Option.pure_def, hvalue, UInt8.ofNat_toNat]

/-- A digest that writes the bytes down: it does not collide. -/
def hexSha : Sha256 where
  hexdigest b := String.ofList ('0' :: b.data.toList.flatMap hexByte)
  hex b := by
    refine ⟨fun h => ?_, fun c hc => ?_⟩
    · have := congrArg String.toList h
      simp at this
    · rw [String.toList_ofList] at hc
      rcases List.mem_cons.mp hc with rfl | hc
      · decide
      · obtain ⟨x, -, hx⟩ := List.mem_flatMap.mp hc
        exact hexByte_hex x c hx

/-- The digest does not collide. -/
theorem hexSha_injective : Function.Injective hexSha.hexdigest := by
  intro a b h
  have htext := congrArg String.toList h
  simp only [hexSha, String.toList_ofList, List.cons.injEq, true_and] at htext
  have hclosed : Delimited (closed hexByte 'g') := by
    refine delimited_hexByte.closed fun x => ⟨_, _, rfl, ?_⟩
    intro hg
    have hmem := hexByte_hex x _ (List.mem_cons_self ..)
    rw [hg] at hmem
    exact absurd hmem (by decide)
  have hlist : a.data.toList = b.data.toList :=
    hclosed.injective (by simp only [closed, htext])
  exact ByteArray.ext (Array.toList_inj.mp hlist)

end Scripted

end Gateway

end ObligationRuntime
