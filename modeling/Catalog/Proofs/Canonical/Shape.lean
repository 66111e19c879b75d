import Catalog.Proofs.Canonical.InPlace
import Catalog.Proofs.Package.Artifact

/-!
# The shape of canonical packages

Of the older fields, canonicalization drops those that the type of a package forbids and keeps the
others. A canonical package is therefore an artifact: it has the shape of its type for a reader that
takes an empty field for one that is there, and for one that does not. Only a package without an
identifier may keep fields that it must not have.

## Main definitions

* `Package.IsCanonicalFor` — what a canonical package is to the package that it comes from.

## Main results

* `Package.legacyField?_canonicalize_of_forbids`, `Package.legacyField?_canonicalize_of_allows` —
  the older fields of a canonical package.
* `Package.isCanonicalFor_canonicalize` — **a canonical package has the shape of its type** and
  keeps what its type allows.
-/

namespace Catalog

/-! ### What a type forbids -/

namespace RegistryType

variable {t : RegistryType} {f : LegacyField}

/-- Only bundles have a hash. -/
theorem forbids_fileSha256_iff : t.forbids .fileSha256 = true ↔ t ≠ .mcpb := by
  cases t <;> simp [forbids]

/-- Images and bundles have no other field. -/
theorem forbids_iff_of_ne (hf : f ≠ .fileSha256) : t.forbids f = true ↔ t = .oci ∨ t = .mcpb := by
  cases t <;> cases f <;> simp [forbids] at hf ⊢

end RegistryType

namespace Package

variable {p : Package} {f : LegacyField}

/-! ### The older fields of a canonical package -/

theorem legacyField?_canonicalize_of_ne (hf : f ≠ .fileSha256) :
    p.canonicalize.legacyField? f = if p.tellsAll then none else p.legacyField? f := by
  cases f with
  | registryBaseUrl => exact p.canonicalize_registryBaseUrl
  | version => exact p.canonicalize_version
  | fileSha256 => exact absurd rfl hf

theorem tellsAll_eq_true_iff :
    p.tellsAll = true ↔ p.isLegacyImage = true ∨ p.registryType = .mcpb := by
  simp [tellsAll]

/-- An image with an identifier has older fields only if they are put into it. -/
theorem legacyField?_eq_none_of_not_isLegacyImage (htype : p.registryType = .oci)
    (hname : p.identifier ≠ "") (hf : f ≠ .fileSha256) (h : ¬ p.isLegacyImage = true) :
    p.legacyField? f = none := by
  by_contra hsome
  rw [isLegacyImage_eq_true_iff] at h
  cases f with
  | registryBaseUrl => exact h ⟨htype, hname, Or.inl hsome⟩
  | version => exact h ⟨htype, hname, Or.inr (Or.inl hsome)⟩
  | fileSha256 => exact hf rfl

/-- A field that the type forbids is dropped, unless there is no identifier. -/
theorem legacyField?_canonicalize_of_forbids (hname : p.identifier ≠ "")
    (hf : p.registryType.forbids f = true) : p.canonicalize.legacyField? f = none := by
  by_cases hhash : f = .fileSha256
  · subst hhash
    rw [legacyField?, canonicalize_fileSha256, if_neg (RegistryType.forbids_fileSha256_iff.mp hf)]
  · rw [legacyField?_canonicalize_of_ne hhash]
    split
    · rfl
    · next htells =>
      rw [tellsAll_eq_true_iff, not_or] at htells
      have htype := ((RegistryType.forbids_iff_of_ne hhash).mp hf).resolve_right htells.2
      exact legacyField?_eq_none_of_not_isLegacyImage htype hname hhash htells.1

/-- A field that the type allows is kept. -/
theorem legacyField?_canonicalize_of_allows (hf : ¬ p.registryType.forbids f = true) :
    p.canonicalize.legacyField? f = p.legacyField? f := by
  by_cases hhash : f = .fileSha256
  · subst hhash
    rw [RegistryType.forbids_fileSha256_iff, not_not] at hf
    rw [legacyField?, legacyField?, canonicalize_fileSha256, if_pos hf]
  · rw [RegistryType.forbids_iff_of_ne hhash, not_or] at hf
    have htells : ¬ p.tellsAll = true := by
      rw [tellsAll_eq_true_iff, isLegacyImage_eq_true_iff]
      rintro (⟨htype, -⟩ | htype)
      · exact hf.1 htype
      · exact hf.2 htype
    rw [legacyField?_canonicalize_of_ne hhash, if_neg htells]

theorem forbiddenFields_canonicalize (hname : p.identifier ≠ "") :
    p.canonicalize.forbiddenFields = [] := by
  refine List.eq_nil_iff_forall_not_mem.mpr fun f hf => ?_
  rw [mem_forbiddenFields_iff, canonicalize_registryType] at hf
  exact hf.2 (legacyField?_canonicalize_of_forbids hname hf.1)

/-- A canonical package is an artifact. -/
theorem exists_ofPackage_canonicalize (hname : p.identifier ≠ "") :
    ∃ a, Artifact.ofPackage p.canonicalize = .ok a := by
  refine Artifact.exists_ofPackage_iff.mpr ⟨mt canonicalize_identifier_eq_empty_iff.mp hname, ?_⟩
  intro f hf
  rw [canonicalize_registryType] at hf
  exact Or.inl (legacyField?_canonicalize_of_forbids hname hf)

/-! ### The whole package -/

/-- The package `c` has the shape of its type, and it keeps all of `p` that this shape allows. -/
structure IsCanonicalFor (c p : Package) : Prop where
  /-- No field is there, not even an empty one, that the type forbids. -/
  forbiddenFields : c.forbiddenFields = []
  /-- There is a transport, by default the one over standard input and output. -/
  transport : c.transport = some (p.transport.getD .stdio)
  artifact : ∃ a, Artifact.ofPackage c = .ok a ∧ a.registryType = c.registryType ∧
    a.identifier = c.identifier
  registryType : c.registryType = p.registryType
  runtimeHint : c.runtimeHint = p.runtimeHint
  extra : c.extra = p.extra
  identifier : p.registryType ≠ .oci → c.identifier = p.identifier
  fileSha256 : p.registryType = .mcpb → c.fileSha256 = p.fileSha256
  version : p.registryType ≠ .oci → p.registryType ≠ .mcpb → c.version = p.version
  registryBaseUrl : p.registryType ≠ .oci → p.registryType ≠ .mcpb →
    c.registryBaseUrl = p.registryBaseUrl

/-- **A canonical package has the shape of its type** and keeps what its type allows. -/
theorem isCanonicalFor_canonicalize (hname : p.identifier ≠ "") :
    p.canonicalize.IsCanonicalFor p := by
  have hallows : ∀ f, f ≠ .fileSha256 → p.registryType ≠ .oci → p.registryType ≠ .mcpb →
      p.canonicalize.legacyField? f = p.legacyField? f := by
    intro f hf hoci hmcpb
    refine legacyField?_canonicalize_of_allows ?_
    rw [RegistryType.forbids_iff_of_ne hf]
    exact not_or.mpr ⟨hoci, hmcpb⟩
  obtain ⟨a, ha⟩ := exists_ofPackage_canonicalize hname
  exact {
    forbiddenFields := forbiddenFields_canonicalize hname
    transport := p.canonicalize_transport
    artifact := ⟨a, ha, Artifact.registryType_of_ofPackage ha, Artifact.identifier_of_ofPackage ha⟩
    registryType := p.canonicalize_registryType
    runtimeHint := p.canonicalize_runtimeHint
    extra := p.canonicalize_extra
    identifier := by
      intro htype
      have hlegacy : ¬ p.isLegacyImage = true := fun h =>
        htype (isLegacyImage_eq_true_iff.mp h).1
      rw [canonicalize_identifier, if_neg hlegacy]
    fileSha256 := by
      intro htype
      rw [canonicalize_fileSha256, if_pos htype]
    version := hallows .version (by decide)
    registryBaseUrl := hallows .registryBaseUrl (by decide) }

/-- A bundle with an empty version and with members that have no meaning of their own. -/
def olderBundle : Package :=
  { Package.ofIdentifier .mcpb "https://a.example/b.mcpb" with
    version := some ""
    fileSha256 := some ""
    extra := [("license", .str "MIT")] }

theorem isCanonicalFor_canonicalize_olderBundle :
    olderBundle.identifier ≠ "" ∧ olderBundle.canonicalize.IsCanonicalFor olderBundle ∧
      olderBundle.canonicalize = { olderBundle with version := none, transport := some .stdio } :=
  ⟨by decide, isCanonicalFor_canonicalize (by decide), by decide⟩

end Package

end Catalog
