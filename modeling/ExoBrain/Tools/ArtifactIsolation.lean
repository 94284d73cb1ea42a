import ExoBrain.Tools.ArtifactStore

/-!
# When bundles are kept apart

A bundle is kept apart from another one if it is written into another directory, so that neither
overwrites a file of the other.  Its directory has a segment for the tenant, for the tool and for the
version, and a segment does not show everything of a name.

* `SharesSegment` says of two names, without making segments of them, that they get the same one:
  without what is trimmed off their ends, they are the same but for runs of characters that are not
  safe, each of which reads like an underscore.
* `bundles_apart_iff`: bundles are kept apart exactly if one of their names does not share its
  segment.
* `space_reads_like_underscore`: two tools of a tenant that are not kept apart.
-/

set_option autoImplicit false

namespace ExoBrain
namespace Tools

/-- What does not stand at an end of a segment. -/
def isTrimmedChar (c : Char) : Bool := !isSafeChar c || isDotOrUnderscore c

/-- What a segment is made of. -/
def coreName (value : String) : List Char :=
  let core := Runs.trimEnds isTrimmedChar value.toList
  if core = [] then "unknown".toList else core

/-- Two names get the same segment. -/
def SharesSegment (value value' : String) : Prop :=
  Runs.Alike isSafeChar '_' (coreName value) (coreName value')

theorem isTrimmedChar_of_isSpace {c : Char} (h : Text.isSpace c = true) : isTrimmedChar c = true := by
  rw [isTrimmedChar, isSafeChar_of_isSpace h]
  rfl

/-- **A segment is a name that is squashed.** -/
theorem safeSegment_eq (value : String) :
    safeSegment value = String.ofList (Runs.squash isSafeChar '_' (coreName value)) := by
  have hstrip : (Text.strip value).toList = Runs.trimEnds Text.isSpace value.toList :=
    String.toList_ofList
  have htrim : Runs.trimEnds isDotOrUnderscore
      (Runs.squash isSafeChar '_' (Text.strip value).toList) =
        Runs.squash isSafeChar '_' (Runs.trimEnds isTrimmedChar value.toList) := by
    have hrun : ∀ c, isSafeChar c = false → isTrimmedChar c = true := by
      intro c hc
      rw [isTrimmedChar, hc]
      rfl
    have hmark : isTrimmedChar '_' = true := rfl
    rw [hstrip, ← Runs.trimEnds_trimEnds (fun _ ↦ isTrimmedChar_of_isSpace) value.toList,
      ← Runs.trimEnds_squash hmark hrun]
    -- After squashing, everything is safe.
    refine Runs.trimEnds_congr fun c hc ↦ ?_
    have hsafe : isSafeChar c = true := by
      rcases Runs.mem_squash hc with ⟨-, hsafe⟩ | rfl
      · exact hsafe
      · rfl
    rw [isTrimmedChar, hsafe]
    rfl
  rw [safeSegment, htrim, coreName]
  by_cases hcore : Runs.trimEnds isTrimmedChar value.toList = []
  · rw [if_pos hcore, hcore, if_pos (by rfl)]
    rfl
  · rw [if_neg hcore, if_neg fun hnil ↦ hcore (Runs.squash_eq_nil hnil)]

theorem sharesSegment_iff {value value' : String} :
    SharesSegment value value' ↔ safeSegment value = safeSegment value' := by
  rw [SharesSegment, ← Runs.squash_eq_squash_iff rfl, safeSegment_eq, safeSegment_eq,
    String.ofList_inj]

/-- A bundle is written into another directory, and what was persisted of the other stays. -/
structure KeptApart (store : FileSystemToolArtifactStore) (key key' : BundleKey) : Prop where
  dir_ne : store.bundleDir key ≠ store.bundleDir key'
  manifest_stays : ∀ toolYaml handlerPy (files : Files),
    (store.persistBundle key' toolYaml handlerPy files).2.get? (store.paths key).manifestPath =
      files.get? (store.paths key).manifestPath
  handler_stays : ∀ toolYaml handlerPy (files : Files),
    (store.persistBundle key' toolYaml handlerPy files).2.get? (store.paths key).handlerPath =
      files.get? (store.paths key).handlerPath

theorem keptApart_iff {store : FileSystemToolArtifactStore} {key key' : BundleKey} :
    KeptApart store key key' ↔ store.bundleDir key ≠ store.bundleDir key' := by
  refine ⟨KeptApart.dir_ne, fun hdir ↦ ?_⟩
  obtain ⟨hmanifest, hmanifests, hhandlers⟩ := store.paths_ne key key'
  obtain ⟨hhandler, -, -⟩ := store.paths_ne key' key
  refine ⟨hdir, fun toolYaml handlerPy files ↦ ?_, fun toolYaml handlerPy files ↦ ?_⟩
  · rw [store.get?_persistBundle, if_neg hmanifest, if_neg fun heq ↦ hdir (hmanifests.mp heq)]
  · rw [store.get?_persistBundle, if_neg fun heq ↦ hdir (hhandlers.mp heq), if_neg hhandler.symm]

/-- **Bundles are kept apart** exactly if tenants, tools or versions do not share their segment. -/
theorem bundles_apart_iff (store : FileSystemToolArtifactStore) (key key' : BundleKey) :
    KeptApart store key key' ↔
      ¬(SharesSegment key.tenantId key'.tenantId ∧ SharesSegment key.toolName key'.toolName ∧
        SharesSegment key.version key'.version) := by
  rw [keptApart_iff, sharesSegment_iff, sharesSegment_iff, sharesSegment_iff, Ne,
    FileSystemToolArtifactStore.bundleDir_inj]

/-- The tools `a b` and `a_b` of a tenant have one directory. -/
theorem space_reads_like_underscore :
    (⟨"acme", "a b", "1.0"⟩ : BundleKey) ≠ ⟨"acme", "a_b", "1.0"⟩ ∧
      (FileSystemToolArtifactStore.mk "artifacts").bundleDir ⟨"acme", "a b", "1.0"⟩ =
        (FileSystemToolArtifactStore.mk "artifacts").bundleDir ⟨"acme", "a_b", "1.0"⟩ := by
  decide +kernel

end Tools
end ExoBrain
