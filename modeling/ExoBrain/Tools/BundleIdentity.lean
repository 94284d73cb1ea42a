import ExoBrain.Audit.Trail
import ExoBrain.Tools.ArtifactStore

/-!
# Which bundle a hash is for

`compute_bundle_hash` (`artifact_store.py`) hashes the manifest and the handler with a line `---` in
between.  Such a line may also stand in the manifest or in the handler, and then the same bytes are
those of another bundle.

* `cutsOnce_iff` says when they are not: `CutsOnce`.
* `bundle_hash_identifies_iff`: then, and only then, is the hash the hash of one bundle, and a
  signature valid for one bundle.
-/

set_option autoImplicit false

namespace ExoBrain
namespace Tools

/-- What stands between the manifest and the handler. -/
def separatorLine : String := "---"

/-- The separator stands in the manifest at most as its first line, and in the handler at most as its
last line. -/
def CutsOnce (toolYaml handlerPy : String) : Prop :=
  separatorLine ∉ (Text.split '\n' toolYaml).tail ∧
    separatorLine ∉ (Text.split '\n' handlerPy).dropLast

instance (toolYaml handlerPy : String) : Decidable (CutsOnce toolYaml handlerPy) :=
  inferInstanceAs (Decidable (_ ∧ _))

/-- The lines of the payload are those of the two texts. -/
theorem split_bundlePayload (toolYaml handlerPy : String) :
    Text.split '\n' (bundlePayload toolYaml handlerPy) =
      Text.split '\n' toolYaml ++ separatorLine :: Text.split '\n' handlerPy := by
  have hseparator : "\n---\n" =
      String.singleton '\n' ++ (separatorLine ++ String.singleton '\n') := rfl
  have hjoined : bundlePayload toolYaml handlerPy =
      toolYaml ++ String.singleton '\n' ++ (separatorLine ++ String.singleton '\n' ++ handlerPy) := by
    rw [bundlePayload, hseparator]
    simp only [String.append_assoc]
  rw [hjoined, Text.split_append, Text.split_append,
    Text.split_of_not_mem (show '\n' ∉ separatorLine.toList by decide)]
  rfl

theorem split_ne_nil (text : String) : Text.split '\n' text ≠ [] :=
  mt List.map_eq_nil_iff.mp (List.splitOn_ne_nil _ _)

/-- **When bytes are those of one bundle.** -/
theorem cutsOnce_iff {toolYaml handlerPy : String} :
    (∀ toolYaml' handlerPy', bundlePayload toolYaml' handlerPy' = bundlePayload toolYaml handlerPy →
      toolYaml' = toolYaml ∧ handlerPy' = handlerPy) ↔ CutsOnce toolYaml handlerPy := by
  have hlines {toolYaml' handlerPy' : String} :
      bundlePayload toolYaml' handlerPy' = bundlePayload toolYaml handlerPy ↔
        Text.split '\n' toolYaml' ++ separatorLine :: Text.split '\n' handlerPy' =
          Text.split '\n' toolYaml ++ separatorLine :: Text.split '\n' handlerPy := by
    rw [← split_bundlePayload, ← split_bundlePayload, Text.split_inj]
  rw [CutsOnce, ← Runs.cut_unique_iff (split_ne_nil toolYaml) (split_ne_nil handlerPy)]
  constructor
  · intro hunique a b ha hb heq
    -- the two lists of lines are those of two texts
    have hline (part : String) (hpart : part ∈ a ++ separatorLine :: b) : '\n' ∉ part.toList := by
      rw [heq, ← split_bundlePayload] at hpart
      exact Text.not_mem_of_mem_split hpart
    have hsplit {lines : List String} (hne : lines ≠ [])
        (hsub : ∀ part ∈ lines, part ∈ a ++ separatorLine :: b) :
        Text.split '\n' ((String.singleton '\n').intercalate lines) = lines :=
      Text.split_intercalate hne fun part hpart ↦ hline part (hsub part hpart)
    have hfirst := hsplit ha fun part hpart ↦ List.mem_append_left _ hpart
    have hsecond := hsplit hb fun part hpart ↦
      List.mem_append_right _ (List.mem_cons_of_mem _ hpart)
    rw [← hfirst, ← hsecond] at heq ⊢
    obtain ⟨hyaml, hpy⟩ := hunique _ _ (hlines.mpr heq)
    exact ⟨congrArg _ hyaml, congrArg _ hpy⟩
  · intro hunique toolYaml' handlerPy' heq
    obtain ⟨hyaml, hpy⟩ := hunique _ _ (split_ne_nil toolYaml') (split_ne_nil handlerPy')
      (hlines.mp heq)
    exact ⟨Text.split_inj.mp hyaml, Text.split_inj.mp hpy⟩

/-- A signature that was issued for a bundle is valid for the other bundles with its bytes. -/
theorem verifyBundleSignature_of_sameBytes {D : Digests}
    {toolYaml handlerPy toolYaml' handlerPy' signingSecret version signature : String}
    (hissued : D.signBundleHash (D.computeBundleHash toolYaml handlerPy) signingSecret version =
      .ok signature)
    (hbytes : bundlePayload toolYaml' handlerPy' = bundlePayload toolYaml handlerPy) :
    D.verifyBundleSignature (D.computeBundleHash toolYaml' handlerPy') signature signingSecret
      version = .ok true := by
  rw [Digests.signBundleHash] at hissued
  split at hissued
  · cases hissued
  · rename_i hsecret
    rw [Digests.verifyBundleSignature_eq_true]
    refine ⟨hsecret, ?_⟩
    rw [Digests.computeBundleHash, hbytes]
    exact Except.ok.inj hissued

/-- **Which bundles are identified by their hash.**  No other bundle has the hash of a bundle, if
SHA-256 does not collide there, exactly if the bundle can be cut once; and a signature issued for the
bundle, with whatever secret and version, is valid for no other bundle of the same bytes exactly if
it can be cut once. -/
theorem bundle_hash_identifies_iff (D : Digests) (toolYaml handlerPy : String)
    (hinjective : ∀ data, D.sha256 data = D.sha256 (bundlePayload toolYaml handlerPy) →
      data = bundlePayload toolYaml handlerPy) :
    ((∀ toolYaml' handlerPy',
        D.computeBundleHash toolYaml' handlerPy' = D.computeBundleHash toolYaml handlerPy →
          toolYaml' = toolYaml ∧ handlerPy' = handlerPy) ↔ CutsOnce toolYaml handlerPy) ∧
      ((∀ toolYaml' handlerPy' signingSecret version signature,
        D.signBundleHash (D.computeBundleHash toolYaml handlerPy) signingSecret version =
            .ok signature →
          bundlePayload toolYaml' handlerPy' = bundlePayload toolYaml handlerPy →
            D.verifyBundleSignature (D.computeBundleHash toolYaml' handlerPy') signature
                signingSecret version = .ok true →
              toolYaml' = toolYaml ∧ handlerPy' = handlerPy) ↔ CutsOnce toolYaml handlerPy) := by
  constructor
  · rw [← cutsOnce_iff]
    refine forall₂_congr fun toolYaml' handlerPy' ↦ ?_
    have hsame : D.computeBundleHash toolYaml' handlerPy' = D.computeBundleHash toolYaml handlerPy ↔
        bundlePayload toolYaml' handlerPy' = bundlePayload toolYaml handlerPy :=
      ⟨hinjective _, congrArg D.sha256⟩
    rw [hsame]
  · rw [← cutsOnce_iff]
    refine forall₂_congr fun toolYaml' handlerPy' ↦ ?_
    constructor
    · intro hguarded hbytes
      have hsecret : Text.strip "secret" ≠ "" := by decide
      have hissued : D.signBundleHash (D.computeBundleHash toolYaml handlerPy) "secret" "v1" =
          .ok (D.hmacSha256 "secret" ("v1" ++ ":" ++ D.computeBundleHash toolYaml handlerPy)) := by
        rw [Digests.signBundleHash, if_neg hsecret]
      exact hguarded _ _ _ hissued hbytes (verifyBundleSignature_of_sameBytes hissued hbytes)
    · intro hunique _ _ _ _ hbytes _
      exact hunique hbytes

/-- A manifest and a handler without the separator. -/
theorem bundle_hash_identifies_iff_plain :
    ((∀ toolYaml' handlerPy',
        Audit.wideDigests.computeBundleHash toolYaml' handlerPy' =
            Audit.wideDigests.computeBundleHash "name: sum" "def run(): pass" →
          toolYaml' = "name: sum" ∧ handlerPy' = "def run(): pass") ↔
        CutsOnce "name: sum" "def run(): pass") ∧
      ((∀ toolYaml' handlerPy' signingSecret version signature,
        Audit.wideDigests.signBundleHash (Audit.wideDigests.computeBundleHash "name: sum" "def run(): pass")
            signingSecret version = .ok signature →
          bundlePayload toolYaml' handlerPy' = bundlePayload "name: sum" "def run(): pass" →
            Audit.wideDigests.verifyBundleSignature (Audit.wideDigests.computeBundleHash toolYaml' handlerPy')
                signature signingSecret version = .ok true →
              toolYaml' = "name: sum" ∧ handlerPy' = "def run(): pass") ↔
        CutsOnce "name: sum" "def run(): pass") :=
  bundle_hash_identifies_iff Audit.wideDigests "name: sum" "def run(): pass"
    fun _ h ↦ Audit.wideDigits_injective h

/-- A line moved from the manifest to the handler, and the separator with it: other texts, the same
hash, and what was signed for the one is valid for the other. -/
theorem moved_separator_collides :
    Function.Injective Audit.wideDigests.sha256 ∧
      Audit.wideDigests.computeBundleHash "a" "b\n---\nc" =
        Audit.wideDigests.computeBundleHash "a\n---\nb" "c" ∧ "a" ≠ "a\n---\nb" ∧
      ∃ signature,
        Audit.wideDigests.signBundleHash (Audit.wideDigests.computeBundleHash "a\n---\nb" "c")
            "secret" "v1" = .ok signature ∧
          Audit.wideDigests.verifyBundleSignature
              (Audit.wideDigests.computeBundleHash "a" "b\n---\nc") signature "secret" "v1" =
            .ok true := by
  have hbytes : bundlePayload "a" "b\n---\nc" = bundlePayload "a\n---\nb" "c" := by decide
  have hissued : Audit.wideDigests.signBundleHash
      (Audit.wideDigests.computeBundleHash "a\n---\nb" "c") "secret" "v1" =
        .ok (Audit.wideDigests.hmacSha256 "secret"
          ("v1" ++ ":" ++ Audit.wideDigests.computeBundleHash "a\n---\nb" "c")) := by
    rw [Digests.signBundleHash, if_neg (show Text.strip "secret" ≠ "" by decide)]
  exact ⟨Audit.wideDigits_injective, congrArg Audit.wideDigests.sha256 hbytes, by decide, _, hissued,
    verifyBundleSignature_of_sameBytes hissued hbytes⟩

end Tools
end ExoBrain
