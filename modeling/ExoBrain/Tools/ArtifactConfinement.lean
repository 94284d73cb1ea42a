import ExoBrain.Lib.PosixPath
import ExoBrain.Tools.ArtifactStore

/-!
# Bundles stay below the root

`persist_bundle` joins three segments to the root, as paths of `pathlib`.  The root is the path of any
text, and the segments are made of any texts.

* `ofRootDir` is the store of a text, and `bundlePath` the directory as the source joins it.
  `text_bundlePath` says that `bundleDir` is its text.
* `IsConfined` says of a segment that it is one step down.
* `persist_bundle_confined` says where the directory is, and that nothing else is written to.
-/

set_option autoImplicit false

namespace ExoBrain
namespace Tools

/-! ## Segments -/

/-- A directory of that name is one level down, whatever separates levels. -/
structure IsConfined (s : String) : Prop where
  ne_empty : s ≠ ""
  not_slash : '/' ∉ s.toList
  not_backslash : '\\' ∉ s.toList
  ne_dot : s ≠ "."
  ne_dotdot : s ≠ ".."

theorem IsSegment.isConfined {s : String} (h : IsSegment s) : IsConfined s := by
  have hunsafe {c : Char} (hc : isSafeChar c = false) : c ∉ s.toList := fun hmem ↦
    Bool.noConfusion (hc.symm.trans (h.safe c hmem))
  -- The last character of a segment has been trimmed, so that it is no dot.
  have hlast (front : List Char) : s.toList ≠ front ++ ['.'] := fun heq ↦ by
    have htrimmed := h.trimmed.2 '.' (by rw [heq, List.getLast?_append]; rfl)
    cases htrimmed
  refine ⟨?_, hunsafe rfl, hunsafe rfl, ?_, ?_⟩
  · rintro rfl
    exact h.ne_nil rfl
  · rintro rfl
    exact hlast [] rfl
  · rintro rfl
    exact hlast ['.'] rfl

theorem IsConfined.isName {s : String} (h : IsConfined s) : IsName s :=
  ⟨h.ne_empty, h.ne_dot, h.not_slash⟩

theorem isName_safeSegment (value : String) : IsName (safeSegment value) :=
  (isSegment_safeSegment value).isConfined.isName

/-! ## Paths and their texts -/

/-- **A segment that is joined to a path** is joined to its text. -/
theorem text_join (p : PosixPath) {s : String} (h : IsName s) :
    (p.join s).text = joinPath p.text s := by
  rw [PosixPath.join_name p h]
  by_cases hparts : p.parts = []
  · have hbelow : (p.below [s] (by simpa using h)).text = p.anchor.text ++ s := by
      rw [PosixPath.text_of_parts (List.append_ne_nil_of_right_ne_nil _ (List.cons_ne_nil _ _))]
      show p.anchor.text ++ "/".intercalate (p.parts ++ [s]) = _
      rw [hparts, List.nil_append, String.intercalate_singleton]
    rw [hbelow, PosixPath.text_of_no_parts hparts]
    cases p.anchor with
    | relative => exact String.empty_append
    | root => rfl
    | doubleRoot => rfl
  · rw [joinPath_of_isSolid ⟨PosixPath.text_ne_dot hparts, PosixPath.not_slash_text hparts⟩]
    exact PosixPath.text_below_name hparts h

namespace FileSystemToolArtifactStore

/-- `__init__`, for the text of a root. -/
def ofRootDir (rootDir : String) : FileSystemToolArtifactStore where
  rootDir := (PosixPath.parse rootDir).text

/-- `self._root_dir / tenant_segment / tool_segment / version_segment`. -/
def bundlePath (rootDir : String) (key : BundleKey) : PosixPath :=
  (((PosixPath.parse rootDir).join (safeSegment key.tenantId)).join
    (safeSegment key.toolName)).join (safeSegment key.version)

variable {rootDir : String} {key : BundleKey}

/-- The directory of a bundle is the text of its path. -/
theorem text_bundlePath : (bundlePath rootDir key).text = (ofRootDir rootDir).bundleDir key := by
  rw [bundlePath, text_join _ (isName_safeSegment _), text_join _ (isName_safeSegment _),
    text_join _ (isName_safeSegment _)]
  rfl

/-- The three names below the root. -/
def segments (key : BundleKey) : List String :=
  [safeSegment key.tenantId, safeSegment key.toolName, safeSegment key.version]

theorem isConfined_of_mem_segments {s : String} (h : s ∈ segments key) : IsConfined s := by
  simp only [segments, List.mem_cons, List.not_mem_nil, or_false] at h
  rcases h with heq | heq | heq <;> rw [heq] <;> exact (isSegment_safeSegment _).isConfined

theorem bundlePath_eq : bundlePath rootDir key =
    (PosixPath.parse rootDir).below (segments key) fun _ h ↦ (isConfined_of_mem_segments h).isName := by
  rw [bundlePath, PosixPath.join_name _ (isName_safeSegment _),
    PosixPath.join_name _ (isName_safeSegment _), PosixPath.join_name _ (isName_safeSegment _),
    PosixPath.below_below, PosixPath.below_below]
  rfl

/-- The directory of a bundle, and a file in it. -/
theorem parse_bundleDir : PosixPath.parse ((ofRootDir rootDir).bundleDir key) =
    bundlePath rootDir key := by
  rw [← text_bundlePath, PosixPath.parse_text]

theorem parse_joinPath_bundleDir {name : String} (h : IsName name) :
    PosixPath.parse (joinPath ((ofRootDir rootDir).bundleDir key) name) =
      (bundlePath rootDir key).below [name] (by simpa using h) := by
  rw [← text_bundlePath, ← text_join _ h, PosixPath.parse_text, PosixPath.join_name _ h]

theorem bundleDir_persistBundle {store : FileSystemToolArtifactStore} {toolYaml handlerPy : String}
    {files : Files} :
    (store.persistBundle key toolYaml handlerPy files).1.bundleDir = store.bundleDir key := rfl

/-- Only the files of a bundle are written to. -/
theorem exists_of_get?_persistBundle_ne {store : FileSystemToolArtifactStore}
    {toolYaml handlerPy : String} {files : Files} {path : String}
    (h : (store.persistBundle key toolYaml handlerPy files).2.get? path ≠ files.get? path) :
    ∃ name, (name = "tool.yaml" ∨ name = "handler.py") ∧ IsName name ∧
      path = joinPath (store.bundleDir key) name := by
  rw [get?_persistBundle] at h
  split at h
  · rename_i hhandler
    exact ⟨"handler.py", .inr rfl, ⟨by decide, by decide, by decide⟩, hhandler⟩
  · split at h
    · rename_i hmanifest
      exact ⟨"tool.yaml", .inl rfl, ⟨by decide, by decide, by decide⟩, hmanifest⟩
    · exact absurd rfl h

/-- **Bundles stay below the root.**  Whatever the root is and the texts are that a bundle is persisted
under: its directory lies three levels below the root, each under a name that is no way out, and only
files in it are written to. -/
theorem persist_bundle_confined (rootDir : String) (key : BundleKey) (toolYaml handlerPy : String)
    (files : Files) :
    let persisted := (ofRootDir rootDir).persistBundle key toolYaml handlerPy files
    let root := PosixPath.parse rootDir
    ∃ tenantSegment toolSegment versionSegment,
      IsConfined tenantSegment ∧ IsConfined toolSegment ∧ IsConfined versionSegment ∧
      (PosixPath.parse persisted.1.bundleDir).anchor = root.anchor ∧
      (PosixPath.parse persisted.1.bundleDir).parts =
        root.parts ++ [tenantSegment, toolSegment, versionSegment] ∧
      ∀ path, persisted.2.get? path ≠ files.get? path → ∃ name,
        (name = "tool.yaml" ∨ name = "handler.py") ∧
        (PosixPath.parse path).anchor = root.anchor ∧
        (PosixPath.parse path).parts =
          root.parts ++ [tenantSegment, toolSegment, versionSegment] ++ [name] := by
  intro persisted root
  have hdir : PosixPath.parse persisted.1.bundleDir = bundlePath rootDir key := by
    rw [bundleDir_persistBundle, parse_bundleDir]
  refine ⟨safeSegment key.tenantId, safeSegment key.toolName, safeSegment key.version,
    (isSegment_safeSegment _).isConfined, (isSegment_safeSegment _).isConfined,
    (isSegment_safeSegment _).isConfined, ?_, ?_, fun path hpath ↦ ?_⟩
  · rw [hdir, bundlePath_eq]
    rfl
  · rw [hdir, bundlePath_eq]
    rfl
  · obtain ⟨name, hname, hisName, heq⟩ := exists_of_get?_persistBundle_ne hpath
    refine ⟨name, hname, ?_, ?_⟩
    · rw [heq, parse_joinPath_bundleDir hisName, bundlePath_eq]
      rfl
    · rw [heq, parse_joinPath_bundleDir hisName, bundlePath_eq]
      rfl

/-- Names that are ways out are not kept, and neither are parts of the root that lead nowhere. -/
example : (ofRootDir "data//artifacts/./").bundleDir ⟨"../..", "a/b", " ._."⟩ =
    "data/artifacts/unknown/a_b/unknown" := by
  decide +kernel

end FileSystemToolArtifactStore
end Tools
end ExoBrain
