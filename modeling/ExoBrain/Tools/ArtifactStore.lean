import ExoBrain.Lib.Dict
import ExoBrain.Lib.Runs
import ExoBrain.Tools.Contracts

/-!
# Where the bundles of tools are kept

An uploaded bundle is a manifest and a handler.  `FileSystemToolArtifactStore` (`artifact_store.py`)
writes them into a directory for the tenant, the tool and the version, each under a segment that
`safeSegment` makes of its name.  The bundle is hashed and the hash is signed.

* `Digests` is what is used of SHA-256 and of HMAC: functions to hexadecimal texts.
* `Files` are the files by the text of their path; `readText` reads one as `Path.read_text` does.
* `IsSegment` says what every segment is like, and `bundleDir_inj` that directories are told apart by
  their segments.
-/

set_option autoImplicit false

namespace ExoBrain
namespace Tools

/-! ## Metadata -/

/-- `ARTIFACT_HANDLER_PATH_METADATA_KEY`. -/
def artifactHandlerPathMetadataKey : String := "artifact_handler_path"

/-- `ARTIFACT_MANIFEST_PATH_METADATA_KEY`. -/
def artifactManifestPathMetadataKey : String := "artifact_manifest_path"

/-- `ARTIFACT_BUNDLE_DIR_METADATA_KEY`. -/
def artifactBundleDirMetadataKey : String := "artifact_bundle_dir"

/-- `ARTIFACT_BUNDLE_HASH_METADATA_KEY`. -/
def artifactBundleHashMetadataKey : String := "artifact_bundle_hash_sha256"

/-- `ARTIFACT_BUNDLE_SIGNATURE_METADATA_KEY`. -/
def artifactBundleSignatureMetadataKey : String := "artifact_bundle_signature_hmac_sha256"

/-- `ARTIFACT_SIGNATURE_VERSION_METADATA_KEY`. -/
def artifactSignatureVersionMetadataKey : String := "artifact_signature_version"

/-- `DEFAULT_ARTIFACT_SIGNATURE_VERSION`. -/
def defaultArtifactSignatureVersion : String := "v1"

/-! ## Segments -/

/-- The characters of `[A-Za-z0-9_.-]`. -/
def isSafeChar (c : Char) : Bool := c.isAlphanum || c == '_' || c == '.' || c == '-'

/-- The characters of `"._"`. -/
def isDotOrUnderscore (c : Char) : Bool := c == '.' || c == '_'

/-- A blank is not safe. -/
theorem isSafeChar_of_isSpace {c : Char} (h : Text.isSpace c = true) : isSafeChar c = false := by
  rw [Bool.eq_false_iff]
  intro hsafe
  simp only [Text.isSpace, Bool.or_eq_true, Bool.and_eq_true, decide_eq_true_eq, beq_iff_eq] at h
  change (decide (65 ≤ c.val ∧ c.val ≤ 90) || (decide (97 ≤ c.val) && decide (c.val ≤ 122)) ||
    (decide (48 ≤ c.val) && decide (c.val ≤ 57)) || c == '_' || c == '.' || c == '-') = true
    at hsafe
  simp only [Bool.or_eq_true, Bool.and_eq_true, decide_eq_true_eq, beq_iff_eq,
    UInt32.le_iff_toNat_le] at hsafe
  rcases hsafe with (((hletter | hdigit) | rfl) | rfl) | rfl
  · change 65 ≤ c.toNat ∧ c.toNat ≤ 90 ∨ 97 ≤ c.toNat ∧ c.toNat ≤ 122 at hletter
    omega
  · change 48 ≤ c.toNat ∧ c.toNat ≤ 57 at hdigit
    omega
  all_goals revert h; decide

/-- `_safe_segment`. -/
def safeSegment (value : String) : String :=
  let normalized := Runs.squash isSafeChar '_' (Text.strip value).toList
  let normalized := Runs.trimEnds isDotOrUnderscore normalized
  if normalized = [] then "unknown" else String.ofList normalized

/-- What a segment is like. -/
structure IsSegment (s : String) : Prop where
  ne_nil : s.toList ≠ []
  safe : ∀ c ∈ s.toList, isSafeChar c = true
  trimmed : Runs.Trimmed isDotOrUnderscore s.toList

theorem isSegment_unknown : IsSegment "unknown" where
  ne_nil := by decide
  safe := by decide
  trimmed := by
    constructor
    · intro c hc
      obtain rfl : 'u' = c := Option.some.inj hc
      decide
    · intro c hc
      obtain rfl : 'n' = c := Option.some.inj hc
      decide

theorem isSegment_safeSegment (value : String) : IsSegment (safeSegment value) := by
  rw [safeSegment]
  split
  · exact isSegment_unknown
  · rename_i hne
    obtain ⟨a, b, hl, -, -, htrimmed⟩ := Runs.trimEnds_spec isDotOrUnderscore
      (Runs.squash isSafeChar '_' (Text.strip value).toList)
    refine ⟨by rwa [String.toList_ofList], fun c hc ↦ ?_, by rwa [String.toList_ofList]⟩
    rw [String.toList_ofList] at hc
    have hmem : c ∈ Runs.squash isSafeChar '_' (Text.strip value).toList := by
      rw [hl]
      exact List.mem_append_left _ (List.mem_append_right _ hc)
    rcases Runs.mem_squash hmem with ⟨-, hsafe⟩ | rfl
    · exact hsafe
    · decide

namespace IsSegment

variable {s : String}

/-- No separator is in a segment. -/
theorem not_mem_slash (h : IsSegment s) : '/' ∉ s.toList := by
  intro hmem
  have hsafe := h.safe '/' hmem
  revert hsafe
  decide

/-- A segment does not begin with a blank. -/
theorem not_startsBlank (h : IsSegment s) : ¬Text.StartsBlank s := by
  intro hblank
  obtain ⟨c, hc, hspace⟩ := (Option.any_eq_true ..).mp hblank
  have hsafe := h.safe c (List.mem_of_mem_head? hc)
  rw [isSafeChar_of_isSpace hspace] at hsafe
  cases hsafe

/-- A segment does not end in a dot or an underscore. -/
theorem exists_last (h : IsSegment s) : ∃ front c, s.toList = front ++ [c] ∧
    isDotOrUnderscore c = false ∧ c ≠ '/' := by
  refine ⟨s.toList.dropLast, s.toList.getLast h.ne_nil, (List.dropLast_append_getLast _).symm,
    h.trimmed.2 _ (List.getLast?_eq_some_getLast h.ne_nil), ?_⟩
  intro hslash
  exact h.not_mem_slash (hslash ▸ List.getLast_mem h.ne_nil)

end IsSegment

/-! ## Hashes and signatures -/

/-- The characters of hexadecimal numbers. -/
def isHexDigit (c : Char) : Bool := c.isDigit || ('a' ≤ c && c ≤ 'f')

theorem isHexDigit_spec {c : Char} (h : isHexDigit c = true) :
    c.toNat < 128 ∧ Text.isSpace c = false := by
  simp only [isHexDigit, Char.isDigit, Bool.or_eq_true, Bool.and_eq_true, decide_eq_true_eq,
    ge_iff_le, UInt32.le_iff_toNat_le, Char.le_def] at h
  change 48 ≤ c.toNat ∧ c.toNat ≤ 57 ∨ 97 ≤ c.toNat ∧ c.toNat ≤ 102 at h
  refine ⟨by omega, ?_⟩
  rw [Bool.eq_false_iff]
  intro hspace
  simp only [Text.isSpace, Bool.or_eq_true, Bool.and_eq_true, decide_eq_true_eq, beq_iff_eq]
    at hspace
  omega

/-- The text of a digest. -/
structure IsHexDigest (s : String) : Prop where
  ne_empty : s ≠ ""
  hex : ∀ c ∈ s.toList, isHexDigit c = true

theorem IsHexDigest.strip_eq {s : String} (h : IsHexDigest s) : Text.strip s = s :=
  Text.strip_eq_self fun c hc ↦ (isHexDigit_spec (h.hex c hc)).2

/-- What is used of SHA-256 and HMAC.  Texts stand for their encodings in UTF-8. -/
structure Digests where
  /-- `hashlib.sha256(data).hexdigest()`. -/
  sha256 : (data : String) → String
  /-- `hmac.new(key, msg, hashlib.sha256).hexdigest()`. -/
  hmacSha256 : (key msg : String) → String
  sha256_hex : ∀ data, IsHexDigest (sha256 data)
  hmacSha256_hex : ∀ key msg, IsHexDigest (hmacSha256 key msg)

/-- The last hexadecimal digit of the code of every character. -/
def lastDigits (text : String) : String :=
  String.ofList ('0' :: text.toList.map fun c ↦ Nat.digitChar (c.toNat % 16))

theorem isHexDigest_lastDigits (text : String) : IsHexDigest (lastDigits text) := by
  have hdigit : ∀ n < 16, isHexDigit (Nat.digitChar n) = true := by decide
  constructor
  · intro h
    have hnil := congrArg String.toList h
    rw [lastDigits, String.toList_ofList] at hnil
    cases hnil
  · intro c hc
    rw [lastDigits, String.toList_ofList, List.mem_cons, List.mem_map] at hc
    rcases hc with rfl | ⟨d, -, rfl⟩
    · decide
    · exact hdigit _ (Nat.mod_lt _ (by decide))

/-- Digests that can be computed by hand. -/
def lastDigitsDigests : Digests where
  sha256 := lastDigits
  hmacSha256 key msg := lastDigits (key ++ msg)
  sha256_hex := isHexDigest_lastDigits
  hmacSha256_hex _ _ := isHexDigest_lastDigits _

/-- What `compute_bundle_hash` hashes. -/
def bundlePayload (toolYaml handlerPy : String) : String := toolYaml ++ "\n---\n" ++ handlerPy

/-- `compute_bundle_hash`. -/
def Digests.computeBundleHash (D : Digests) (toolYaml handlerPy : String) : String :=
  D.sha256 (bundlePayload toolYaml handlerPy)

theorem Digests.computeBundleHash_hex (D : Digests) (toolYaml handlerPy : String) :
    IsHexDigest (D.computeBundleHash toolYaml handlerPy) :=
  D.sha256_hex _

/-- `hmac.compare_digest`, for texts. -/
def compareDigest (a b : String) : Except ToolError Bool :=
  if a.toList.all (fun c ↦ c.toNat < 128) && b.toList.all (fun c ↦ c.toNat < 128) then
    .ok (decide (a = b))
  else .error (.other "comparing strings with non-ASCII characters is not supported")

/-- A digest is compared with any text. -/
theorem IsHexDigest.compareDigest_eq_true {a b : String} (h : IsHexDigest a) :
    compareDigest a b = .ok true ↔ a = b := by
  have hascii : a.toList.all (fun c ↦ c.toNat < 128) = true :=
    List.all_eq_true.mpr fun c hc ↦ decide_eq_true (isHexDigit_spec (h.hex c hc)).1
  rw [compareDigest]
  constructor
  · intro hequal
    split at hequal
    · exact of_decide_eq_true (Except.ok.inj hequal)
    · cases hequal
  · rintro rfl
    rw [hascii, Bool.and_self, if_pos rfl, decide_eq_true rfl]

/-- `sign_bundle_hash`. -/
def Digests.signBundleHash (D : Digests) (bundleHash signingSecret version : String) :
    Except ToolError String :=
  if Text.strip signingSecret = "" then
    .error (.valueError "tool artifact signing secret is required")
  else .ok (D.hmacSha256 signingSecret (version ++ ":" ++ bundleHash))

/-- `verify_bundle_signature`. -/
def Digests.verifyBundleSignature (D : Digests)
    (bundleHash signature signingSecret version : String) : Except ToolError Bool := do
  let expected ← D.signBundleHash bundleHash signingSecret version
  compareDigest expected signature

theorem Digests.verifyBundleSignature_eq_true {D : Digests}
    {bundleHash signature signingSecret version : String} :
    D.verifyBundleSignature bundleHash signature signingSecret version = .ok true ↔
      Text.strip signingSecret ≠ "" ∧
        D.hmacSha256 signingSecret (version ++ ":" ++ bundleHash) = signature := by
  rw [verifyBundleSignature, signBundleHash]
  split
  · rename_i hblank
    exact iff_of_false nofun fun h ↦ h.1 hblank
  · rename_i hsecret
    exact (D.hmacSha256_hex _ _).compareDigest_eq_true.trans (and_iff_right hsecret).symm

/-! ## Files -/

/-- The texts of the files, by the texts of their paths. -/
abbrev Files := Dict String String

/-- `Path(path).read_text(encoding="utf-8")`, if the file is there. -/
def Files.readText (files : Files) (path : String) : Option String :=
  (files.get? path).map Text.universalNewlines

/-- `compute_bundle_hash_from_files`, if the files are there. -/
def Digests.computeBundleHashFromFiles (D : Digests) (files : Files)
    (manifestPath handlerPath : String) : Option String := do
  let toolYaml ← files.readText manifestPath
  let handlerPy ← files.readText handlerPath
  return D.computeBundleHash toolYaml handlerPy

/-- `str(Path(base) / name)`, for the text of a path and one name. -/
def joinPath (base name : String) : String :=
  if base = "." then name
  else if base.toList.getLast? = some '/' then base ++ name
  else base ++ "/" ++ name

/-- A path to which a name is joined after a separator. -/
structure IsSolid (base : String) : Prop where
  ne_dot : base ≠ "."
  not_slash : base.toList.getLast? ≠ some '/'

theorem joinPath_of_isSolid {base : String} (h : IsSolid base) (name : String) :
    joinPath base name = base ++ "/" ++ name := by
  rw [joinPath, if_neg h.ne_dot, if_neg h.not_slash]

/-- A path with a segment at its end. -/
theorem isSolid_joinPath {name : String} (h : IsSegment name) (base : String) :
    IsSolid (joinPath base name) := by
  obtain ⟨front, c, hname, hdot, hslash⟩ := h.exists_last
  obtain ⟨front', hjoin⟩ : ∃ front', (joinPath base name).toList = front' ++ [c] := by
    rw [joinPath]
    split_ifs
    · exact ⟨front, hname⟩
    · exact ⟨base.toList ++ front, by rw [String.toList_append, hname, List.append_assoc]⟩
    · exact ⟨(base ++ "/").toList ++ front, by rw [String.toList_append, hname, List.append_assoc]⟩
  have hlast : (joinPath base name).toList.getLast? = some c := by
    rw [hjoin, List.getLast?_append]
    rfl
  constructor
  · intro hd
    rw [hd] at hlast
    obtain rfl : '.' = c := Option.some.inj hlast
    cases hdot
  · rw [hlast]
    exact fun heq ↦ hslash (Option.some.inj heq)

/-- Paths are told apart by what was joined last and what it was joined to. -/
theorem joinPath_inj {base base' name name' : String} (hbase : IsSolid base)
    (hbase' : IsSolid base') (hname : '/' ∉ name.toList) (hname' : '/' ∉ name'.toList) :
    joinPath base name = joinPath base' name' ↔ base = base' ∧ name = name' := by
  rw [joinPath_of_isSolid hbase, joinPath_of_isSolid hbase']
  constructor
  · intro h
    have hsplit := Text.rsplit_append (s := base) hname
    have hsplit' := Text.rsplit_append (s := base') hname'
    have heq : (base, name) = (base', name') := by
      rw [← Option.some_inj, ← hsplit, ← hsplit']
      exact congrArg (Text.rsplit '/') h
    exact Prod.mk.inj heq
  · rintro ⟨rfl, rfl⟩
    rfl

theorem joinPath_inj_right {base name name' : String} :
    joinPath base name = joinPath base name' ↔ name = name' := by
  rw [joinPath, joinPath]
  split_ifs
  · rfl
  · exact String.append_right_inj _
  · exact String.append_right_inj _

/-- A path begins as what it begins with. -/
theorem startsBlank_joinPath {name : String} (hname : ¬Text.StartsBlank name) (base : String) :
    Text.StartsBlank (joinPath base name) ↔ Text.StartsBlank base := by
  have hslash : ¬Text.StartsBlank ("/" ++ name) := by
    rw [Text.StartsBlank, String.toList_append]
    exact Bool.false_ne_true
  have hfront {rest : String} (hrest : ¬Text.StartsBlank rest) :
      Text.StartsBlank (base ++ rest) ↔ Text.StartsBlank base := by
    rw [Text.StartsBlank, Text.StartsBlank, String.toList_append, List.head?_append]
    cases hbase : base.toList.head? with
    | none => exact iff_of_false hrest Bool.false_ne_true
    | some c => exact Iff.rfl
  rw [joinPath]
  split_ifs with hdot hend
  · rw [hdot]
    exact iff_of_false hname (by decide)
  · exact hfront hname
  · rw [String.append_assoc]
    exact hfront hslash

theorem getLast?_joinPath {name : String} {c : Char} (hname : name.toList.getLast? = some c)
    (base : String) : (joinPath base name).toList.getLast? = some c := by
  have hend (front : String) : (front ++ name).toList.getLast? = some c := by
    rw [String.toList_append, List.getLast?_append, hname]
    rfl
  rw [joinPath]
  split_ifs
  · exact hname
  · exact hend base
  · exact hend (base ++ "/")

/-! ## The store -/

/-- `ToolArtifactBundlePaths`. -/
structure ToolArtifactBundlePaths where
  bundleDir : String
  manifestPath : String
  handlerPath : String
deriving DecidableEq, Repr

/-- `FileSystemToolArtifactStore`.  The root is the text of a path. -/
structure FileSystemToolArtifactStore where
  rootDir : String

/-- What a bundle is persisted under. -/
structure BundleKey where
  tenantId : String
  toolName : String
  version : String
deriving DecidableEq, Repr

namespace FileSystemToolArtifactStore

/-- The directory of a bundle. -/
def bundleDir (store : FileSystemToolArtifactStore) (key : BundleKey) : String :=
  joinPath (joinPath (joinPath store.rootDir (safeSegment key.tenantId)) (safeSegment key.toolName))
    (safeSegment key.version)

/-- The paths of a bundle. -/
def paths (store : FileSystemToolArtifactStore) (key : BundleKey) : ToolArtifactBundlePaths where
  bundleDir := store.bundleDir key
  manifestPath := joinPath (store.bundleDir key) "tool.yaml"
  handlerPath := joinPath (store.bundleDir key) "handler.py"

theorem isSolid_bundleDir (store : FileSystemToolArtifactStore) (key : BundleKey) :
    IsSolid (store.bundleDir key) :=
  isSolid_joinPath (isSegment_safeSegment key.version) _

/-- **Directories are told apart by their segments.** -/
theorem bundleDir_inj {store : FileSystemToolArtifactStore} {key key' : BundleKey} :
    store.bundleDir key = store.bundleDir key' ↔
      safeSegment key.tenantId = safeSegment key'.tenantId ∧
        safeSegment key.toolName = safeSegment key'.toolName ∧
        safeSegment key.version = safeSegment key'.version := by
  have hslash (value : String) := (isSegment_safeSegment value).not_mem_slash
  have hsolid (base value : String) := isSolid_joinPath (isSegment_safeSegment value) base
  rw [bundleDir, bundleDir,
    joinPath_inj (hsolid _ _) (hsolid _ _) (hslash key.version) (hslash key'.version),
    joinPath_inj (hsolid _ _) (hsolid _ _) (hslash key.toolName) (hslash key'.toolName),
    joinPath_inj_right, and_assoc]

/-- A manifest is no handler, and the files of different directories are different. -/
theorem paths_ne (store : FileSystemToolArtifactStore) (key key' : BundleKey) :
    (store.paths key).manifestPath ≠ (store.paths key').handlerPath ∧
      ((store.paths key).manifestPath = (store.paths key').manifestPath ↔
        store.bundleDir key = store.bundleDir key') ∧
      ((store.paths key).handlerPath = (store.paths key').handlerPath ↔
        store.bundleDir key = store.bundleDir key') := by
  have hsolid := store.isSolid_bundleDir key
  have hsolid' := store.isSolid_bundleDir key'
  have hyaml : '/' ∉ "tool.yaml".toList := by decide
  have hpy : '/' ∉ "handler.py".toList := by decide
  refine ⟨fun h ↦ ?_, ?_, ?_⟩
  · have hname := ((joinPath_inj hsolid hsolid' hyaml hpy).mp h).2
    revert hname
    decide
  · exact (joinPath_inj hsolid hsolid' hyaml hyaml).trans (and_iff_left rfl)
  · exact (joinPath_inj hsolid hsolid' hpy hpy).trans (and_iff_left rfl)

/-- A path of the store begins with a blank if the root does. -/
theorem startsBlank_paths (store : FileSystemToolArtifactStore) (key : BundleKey) :
    (Text.StartsBlank (store.paths key).manifestPath ↔ Text.StartsBlank store.rootDir) ∧
      (Text.StartsBlank (store.paths key).handlerPath ↔ Text.StartsBlank store.rootDir) := by
  have hdir : Text.StartsBlank (store.bundleDir key) ↔ Text.StartsBlank store.rootDir := by
    rw [bundleDir, startsBlank_joinPath (isSegment_safeSegment key.version).not_startsBlank,
      startsBlank_joinPath (isSegment_safeSegment key.toolName).not_startsBlank,
      startsBlank_joinPath (isSegment_safeSegment key.tenantId).not_startsBlank]
  exact ⟨(startsBlank_joinPath (by decide) _).trans hdir,
    (startsBlank_joinPath (by decide) _).trans hdir⟩

/-- `persist_bundle`. -/
def persistBundle (store : FileSystemToolArtifactStore) (key : BundleKey)
    (toolYaml handlerPy : String) (files : Files) : ToolArtifactBundlePaths × Files :=
  let paths := store.paths key
  (paths, (files.set paths.manifestPath toolYaml).set paths.handlerPath handlerPy)

/-- **What a bundle leaves alone**: every file but its own two. -/
theorem get?_persistBundle (store : FileSystemToolArtifactStore) (key : BundleKey)
    (toolYaml handlerPy : String) (files : Files) (path : String) :
    (store.persistBundle key toolYaml handlerPy files).2.get? path =
      if path = (store.paths key).handlerPath then some handlerPy
      else if path = (store.paths key).manifestPath then some toolYaml
      else files.get? path := by
  rw [persistBundle, Dict.get?_set, Dict.get?_set]

end FileSystemToolArtifactStore

/-- `render_tool_yaml`. -/
def renderToolYaml (manifest : ToolPackageManifest) : String :=
  let requirementLines :=
    if manifest.requirements = [] then "  []"
    else "\n".intercalate (manifest.requirements.map fun item ↦ "  - " ++ item)
  "tool_name: " ++ manifest.toolName ++ "\n" ++
    "version: " ++ manifest.version ++ "\n" ++
    "description: " ++ manifest.description ++ "\n" ++
    "entry_file: " ++ manifest.entryFile ++ "\n" ++
    "entrypoint: " ++ manifest.entrypoint ++ "\n" ++
    "risk_tier: " ++ manifest.riskTier ++ "\n" ++
    "timeout_ms: " ++ toString manifest.timeoutMs ++ "\n" ++
    "requirements:\n" ++
    requirementLines ++ "\n"

end Tools
end ExoBrain
