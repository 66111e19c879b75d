import Catalog.Ownership.Native
import Catalog.Proofs.Package.Shape

/-!
# Packages that are artifacts

A package is an artifact when it has an identifier and no text in a field that its type forbids. Its
artifact then has the type and the identifier of the package, and the fields that its type allows.

## Main definitions

* `Ecosystem.artifact` — a package of an ecosystem, as an artifact.

## Main results

* `Artifact.exists_ofPackage_iff` — **which packages are artifacts.**
* `Artifact.ofPackage_cases` — the artifact of a package, by the type of the package.
* `Artifact.registryType_of_ofPackage`, `Artifact.identifier_of_ofPackage` — what it keeps.
-/

namespace Catalog

/-! ### Packages of ecosystems as artifacts -/

namespace Ecosystem

/-- A package in the registry of an ecosystem, as an artifact. -/
def artifact : Ecosystem → NativeArtifact → Artifact
  | npm => .npm
  | pypi => .pypi
  | nuget => .nuget

theorem registryType_injective : Function.Injective registryType := by
  intro e f h
  cases e <;> cases f <;> first | rfl | cases h

@[simp] theorem registryType_ne_oci (e : Ecosystem) : e.registryType ≠ .oci := by cases e <;> nofun

@[simp] theorem registryType_ne_mcpb (e : Ecosystem) : e.registryType ≠ .mcpb := by
  cases e <;> nofun

@[simp] theorem registryType_ne_other (e : Ecosystem) (name : String) :
    e.registryType ≠ .other name := by
  cases e <;> nofun

end Ecosystem

namespace Artifact

/-! ### Packages that are artifacts -/

variable {p : Package} {a : Artifact}

/-- A text that is not empty is one that is there and not empty. -/
theorem nonEmpty_eq_some_iff {s : Option String} {t : String} :
    nonEmpty s = some t ↔ s = some t ∧ t ≠ "" := by
  simp only [nonEmpty, Option.filter_eq_some_iff, Bool.not_eq_true', ← Bool.not_eq_true,
    String.isEmpty_iff, ne_eq]

theorem nonEmpty_eq_none_iff {s : Option String} :
    nonEmpty s = none ↔ s = none ∨ s = some "" := by
  cases s with
  | none => simp [nonEmpty]
  | some t => simp [nonEmpty, Option.filter]

theorem forbiddenField?_eq_none_iff : forbiddenField? p = none ↔ p.ForbidsOnlyBlank := by
  simp [forbiddenField?, Package.ForbidsOnlyBlank, LegacyField.mem_all, nonEmpty_eq_none_iff]

/-- A package is an artifact when it has an identifier, and of the fields that its type forbids at
most empty ones. -/
theorem exists_ofPackage_iff :
    (∃ a, ofPackage p = .ok a) ↔ p.identifier ≠ "" ∧ p.ForbidsOnlyBlank := by
  rw [← forbiddenField?_eq_none_iff, ofPackage]
  by_cases hname : p.identifier = ""
  · simp [hname]
  · rw [if_neg (by simpa using hname)]
    cases forbiddenField? p <;> simp [hname]

/-! ### What the artifact of a package is -/

/-- The artifact of a package, by the type of the package. -/
theorem ofPackage_cases (h : ofPackage p = .ok a) :
    (p.registryType = .oci ∧ a = .image ⟨p.identifier, p.transport⟩) ∨
    (p.registryType = .mcpb ∧ a = .bundle ⟨p.identifier, nonEmpty p.fileSha256, p.transport⟩) ∨
    (∃ e : Ecosystem, p.registryType = e.registryType ∧ a = e.artifact (native p)) ∨
    ∃ name, p.registryType = .other name ∧ a = .other name p.identifier := by
  unfold ofPackage at h
  split at h
  · cases h
  split at h
  · cases h
  rw [Except.ok.injEq] at h
  subst h
  cases p.registryType with
  | npm => exact .inr (.inr (.inl ⟨.npm, rfl, rfl⟩))
  | pypi => exact .inr (.inr (.inl ⟨.pypi, rfl, rfl⟩))
  | oci => exact .inl ⟨rfl, rfl⟩
  | nuget => exact .inr (.inr (.inl ⟨.nuget, rfl, rfl⟩))
  | mcpb => exact .inr (.inl ⟨rfl, rfl⟩)
  | other name => exact .inr (.inr (.inr ⟨name, rfl, rfl⟩))

theorem eq_image_of_ofPackage (h : ofPackage p = .ok a)
    (ht : p.registryType = .oci) : a = .image ⟨p.identifier, p.transport⟩ := by
  obtain ⟨-, rfl⟩ | ⟨h, -⟩ | ⟨e, h, -⟩ | ⟨name, h, -⟩ := ofPackage_cases h
  · rfl
  · rw [ht] at h; cases h
  · exact absurd (h.symm.trans ht) e.registryType_ne_oci
  · rw [ht] at h; cases h

theorem eq_bundle_of_ofPackage (h : ofPackage p = .ok a)
    (ht : p.registryType = .mcpb) :
    a = .bundle ⟨p.identifier, nonEmpty p.fileSha256, p.transport⟩ := by
  obtain ⟨h, -⟩ | ⟨-, rfl⟩ | ⟨e, h, -⟩ | ⟨name, h, -⟩ := ofPackage_cases h
  · rw [ht] at h; cases h
  · rfl
  · exact absurd (h.symm.trans ht) e.registryType_ne_mcpb
  · rw [ht] at h; cases h

theorem eq_artifact_of_ofPackage (h : ofPackage p = .ok a)
    {e : Ecosystem} (ht : p.registryType = e.registryType) : a = e.artifact (native p) := by
  obtain ⟨h, -⟩ | ⟨h, -⟩ | ⟨f, hf, rfl⟩ | ⟨name, h, -⟩ := ofPackage_cases h
  · exact absurd (ht.symm.trans h) e.registryType_ne_oci
  · exact absurd (ht.symm.trans h) e.registryType_ne_mcpb
  · rw [Ecosystem.registryType_injective (ht.symm.trans hf)]
  · exact absurd (ht.symm.trans h) (e.registryType_ne_other name)

theorem identifier_of_ofPackage (h : ofPackage p = .ok a) :
    a.identifier = p.identifier := by
  obtain ⟨-, rfl⟩ | ⟨-, rfl⟩ | ⟨e, -, rfl⟩ | ⟨name, -, rfl⟩ := ofPackage_cases h
  · rfl
  · rfl
  · cases e <;> rfl
  · rfl

theorem registryType_of_ofPackage (h : ofPackage p = .ok a) : a.registryType = p.registryType := by
  obtain ⟨ht, rfl⟩ | ⟨ht, rfl⟩ | ⟨e, ht, rfl⟩ | ⟨name, ht, rfl⟩ := ofPackage_cases h
  · exact ht.symm
  · exact ht.symm
  · rw [ht]
    cases e <;> rfl
  · exact ht.symm

end Artifact

end Catalog
