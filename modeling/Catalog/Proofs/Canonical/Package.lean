import Catalog.Canonical.Pipeline
import Catalog.Proofs.Image.Name

/-!
# Canonical packages canonicalized again

A package is a fixed point of canonicalization exactly when no stage has anything to do. All stages
but the first leave nothing behind for a second run; the first one does when the version of an image
holds a slash, because what follows the slash is then taken for a component of the name without a
tag.

## Main definitions

* `Package.IsNormal` — no stage has anything to do.
* `Package.SpillsTag` — the tag of an image spills into a component of its name.

## Main results

* `Package.canonicalize_eq_self_iff` — the fixed points are the normal packages.
* `Package.canonicalize_canonicalize_iff` — **a second run changes nothing unless the tag spills**.
-/

namespace Catalog

open Text

namespace Package

variable (p : Package)

/-! ### What canonicalization does to the fields -/

/-- Whether canonicalization drops the fields that an image reference or the URL of a bundle
tells. -/
def tellsAll : Bool := p.isLegacyImage || p.registryType == .mcpb

/-- The canonical form, field by field. -/
theorem canonicalize_eq_fields : p.canonicalize =
    { p with
      identifier := if p.isLegacyImage then p.fullIdentifier else p.identifier
      registryBaseUrl := if p.tellsAll then none else p.registryBaseUrl
      version := if p.tellsAll then none else p.version
      fileSha256 := if p.registryType = .mcpb then p.fileSha256 else none
      transport := some (p.transport.getD .stdio) } := by
  rw [canonicalize_eq, defaultTransport, stripForbiddenFields, simplifyBundle, completeIdentifier,
    tellsAll]
  repeat' split
  all_goals simp_all

@[simp] theorem canonicalize_registryType : p.canonicalize.registryType = p.registryType := by
  rw [canonicalize_eq_fields]

theorem canonicalize_identifier :
    p.canonicalize.identifier = if p.isLegacyImage then p.fullIdentifier else p.identifier := by
  rw [canonicalize_eq_fields]

theorem canonicalize_registryBaseUrl :
    p.canonicalize.registryBaseUrl = if p.tellsAll then none else p.registryBaseUrl := by
  rw [canonicalize_eq_fields]

theorem canonicalize_version :
    p.canonicalize.version = if p.tellsAll then none else p.version := by
  rw [canonicalize_eq_fields]

theorem canonicalize_fileSha256 :
    p.canonicalize.fileSha256 = if p.registryType = .mcpb then p.fileSha256 else none := by
  rw [canonicalize_eq_fields]

theorem canonicalize_transport : p.canonicalize.transport = some (p.transport.getD .stdio) := by
  rw [canonicalize_eq_fields]

@[simp] theorem canonicalize_runtimeHint : p.canonicalize.runtimeHint = p.runtimeHint := by
  rw [canonicalize_eq_fields]

@[simp] theorem canonicalize_extra : p.canonicalize.extra = p.extra := by
  rw [canonicalize_eq_fields]

/-! ### Fixed points -/

/-- No stage has anything to do for the package. -/
structure IsNormal : Prop where
  image : p.isLegacyImage = false
  bundle : p.registryType = .mcpb → p.version = none ∧ p.registryBaseUrl = none
  hash : p.registryType ≠ .mcpb → p.fileSha256 = none
  transport : p.transport.isSome

variable {p}

/-- A name without a tag gets longer. -/
theorem length_lt_fullIdentifier (h : ImageName.isBare p.identifier = true) :
    p.identifier.length < p.fullIdentifier.length := by
  have hslash : "/".length = 1 := rfl
  have hcolon : ":".length = 1 := rfl
  rw [fullIdentifier]
  split
  · rw [hostedIdentifier]
    split <;> simp only [String.length_append] <;> omega
  · next hbare =>
    rw [hostedIdentifier] at hbare ⊢
    split
    · next hhost => exact absurd h (by rwa [if_pos hhost] at hbare)
    · simp only [String.length_append]
      omega

theorem isLegacyImage_eq_true_iff : p.isLegacyImage = true ↔
    p.registryType = .oci ∧ p.identifier ≠ "" ∧
      (p.registryBaseUrl ≠ none ∨ p.version ≠ none ∨ ImageName.isBare p.identifier = true) := by
  simp [isLegacyImage, Option.isSome_iff_ne_none, and_assoc, or_assoc]

theorem IsNormal.canonicalize_eq (h : p.IsNormal) : p.canonicalize = p := by
  obtain ⟨t, ht⟩ := Option.isSome_iff_exists.mp h.transport
  have himage := h.image
  have hbundle := h.bundle
  have hhash := h.hash
  rw [canonicalize_eq_fields, tellsAll]
  cases p
  simp_all

/-- A package that canonicalization leaves alone is no image in the older form: its older fields
would be dropped, and a name without a tag would get longer. -/
theorem isLegacyImage_eq_false_of_fixed (h : p.canonicalize = p) : p.isLegacyImage = false := by
  cases hlegacy : p.isLegacyImage with
  | false => rfl
  | true =>
    have htells : p.tellsAll = true := by simp [tellsAll, hlegacy]
    have hurl : p.registryBaseUrl = none := by
      rw [← h, canonicalize_registryBaseUrl, if_pos htells]
    have hversion : p.version = none := by
      rw [← h, canonicalize_version, if_pos htells]
    have hname : p.fullIdentifier = p.identifier := by
      conv => rhs; rw [← h, canonicalize_identifier, if_pos hlegacy]
    obtain ⟨-, -, hor⟩ := isLegacyImage_eq_true_iff.mp hlegacy
    rcases hor with hor | hor | hbare
    · exact absurd hurl hor
    · exact absurd hversion hor
    · have hlen := length_lt_fullIdentifier hbare
      rw [hname] at hlen
      exact absurd hlen (Nat.lt_irrefl _)

/-- The fixed points of canonicalization are the normal packages. -/
theorem canonicalize_eq_self_iff : p.canonicalize = p ↔ p.IsNormal := by
  refine ⟨fun h => ⟨isLegacyImage_eq_false_of_fixed h, ?_, ?_, ?_⟩, IsNormal.canonicalize_eq⟩
  · intro htype
    have htells : p.tellsAll = true := by simp [tellsAll, htype]
    constructor
    · rw [← h, canonicalize_version, if_pos htells]
    · rw [← h, canonicalize_registryBaseUrl, if_pos htells]
  · intro htype
    rw [← h, canonicalize_fileSha256, if_neg htype]
  · rw [← h, canonicalize_transport]
    rfl

/-! ### The second run -/

theorem fullIdentifier_ne_empty (h : p.identifier ≠ "") : p.fullIdentifier ≠ "" := by
  intro hfull
  have hlist : p.fullIdentifier.toList = [] := by rw [hfull]; rfl
  have hname : p.identifier.toList ≠ [] := fun hnil => h (String.toList_inj.mp hnil)
  rw [fullIdentifier, hostedIdentifier] at hlist
  repeat' split at hlist
  all_goals simp [hname] at hlist

/-- A canonical image is in the older form again just when its name still has no tag. -/
theorem isLegacyImage_canonicalize :
    p.canonicalize.isLegacyImage =
      (p.isLegacyImage && ImageName.isBare p.fullIdentifier) := by
  rw [Bool.eq_iff_iff, Bool.and_eq_true, isLegacyImage_eq_true_iff, canonicalize_registryType,
    canonicalize_identifier, canonicalize_registryBaseUrl, canonicalize_version, tellsAll]
  cases hlegacy : p.isLegacyImage with
  | true =>
    obtain ⟨htype, hname, -⟩ := isLegacyImage_eq_true_iff.mp hlegacy
    simp [htype, fullIdentifier_ne_empty hname]
  | false =>
    -- an image without a name to put together is none afterwards either
    refine iff_of_false ?_ (by simp)
    rintro ⟨htype, hname, hor⟩
    have : p.isLegacyImage = true :=
      isLegacyImage_eq_true_iff.mpr ⟨htype, hname, by simpa [htype] using hor⟩
    rw [hlegacy] at this
    exact Bool.false_ne_true this

/-- The tag of an image spills into a component of its name: the name has neither a tag nor a
digest, and the tag that the older fields name holds a slash, with neither a tag nor a digest in
what follows it. -/
structure SpillsTag (p : Package) : Prop where
  image : p.registryType = .oci
  named : p.identifier ≠ ""
  untagged : ImageName.isBare p.hostedIdentifier = true
  slash : '/' ∈ p.legacyTag.toList
  tagUntagged : ImageName.isBare p.legacyTag = true
  /-- Otherwise the colon before the tag makes the front of a digest complete. -/
  digestFree : ¬ ImageName.digestMark <:+ p.identifier.toList

/-- Only a version can hold a slash: the tag of an image without one is fixed. -/
theorem version_ne_none_of_slash (h : '/' ∈ p.legacyTag.toList) : p.version ≠ none := by
  intro hversion
  rw [legacyTag, hversion] at h
  exact absurd h (by decide)

theorem digestMark_suffix_hostedIdentifier_iff :
    ImageName.digestMark <:+ p.hostedIdentifier.toList ↔
      ImageName.digestMark <:+ p.identifier.toList := by
  rw [hostedIdentifier]
  split
  · rfl
  · rw [show (p.legacyHost ++ "/" ++ p.identifier).toList =
      p.legacyHost.toList ++ '/' :: p.identifier.toList by simp,
      suffix_append_cons_iff ImageName.slash_notMem_digestMark]

/-- After a first run the name of an image has no tag just when its tag spilled. -/
theorem isLegacyImage_canonicalize_iff : p.canonicalize.isLegacyImage = true ↔ p.SpillsTag := by
  rw [isLegacyImage_canonicalize, Bool.and_eq_true, isLegacyImage_eq_true_iff, fullIdentifier]
  constructor
  · rintro ⟨⟨htype, hname, -⟩, hbare⟩
    split at hbare
    · next huntagged =>
      obtain ⟨hslash, htag, hfront⟩ := (ImageName.isBare_tagged_iff huntagged).mp hbare
      exact ⟨htype, hname, huntagged, hslash, htag,
        fun h => hfront (digestMark_suffix_hostedIdentifier_iff.mpr h)⟩
    · next htagged => exact absurd hbare htagged
  · intro h
    refine ⟨⟨h.image, h.named, Or.inr (Or.inl (version_ne_none_of_slash h.slash))⟩, ?_⟩
    rw [if_pos h.untagged, ImageName.isBare_tagged_iff h.untagged]
    exact ⟨h.slash, h.tagUntagged, fun hs =>
      h.digestFree (digestMark_suffix_hostedIdentifier_iff.mp hs)⟩

instance : Decidable p.SpillsTag := decidable_of_iff _ isLegacyImage_canonicalize_iff

/-- **A second run changes nothing unless the tag spills.** -/
theorem canonicalize_canonicalize_iff :
    p.canonicalize.canonicalize = p.canonicalize ↔ ¬ p.SpillsTag := by
  rw [canonicalize_eq_self_iff, ← isLegacyImage_canonicalize_iff, Bool.not_eq_true]
  refine ⟨IsNormal.image, fun himage => ⟨himage, ?_, ?_, ?_⟩⟩
  · intro htype
    rw [canonicalize_registryType] at htype
    simp [canonicalize_version, canonicalize_registryBaseUrl, tellsAll, htype]
  · intro htype
    rw [canonicalize_registryType] at htype
    rw [canonicalize_fileSha256, if_neg htype]
  · rw [canonicalize_transport]
    rfl

end Package

end Catalog
