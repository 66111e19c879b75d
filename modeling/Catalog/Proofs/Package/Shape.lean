import Catalog.Proofs.Package.Document

/-!
# The older form of packages and their documents

A package is in the older form for one of two reasons: it has a field that its type forbids, or it
is an image whose name has neither a tag nor a digest. Both can be seen in a document as well, also
in one that is no package as a whole. What is seen there is what the package tells that the document
decodes to, and what its projection tells.

## Main definitions

* `Package.ForbidsOnlyBlank` — the fields that the type forbids are absent or empty.

## Main results

* `Package.isLegacy_iff`, `isLegacyDocument_iff` — the two reasons, of a package and of a document.
* `isLegacyDocument_eq_isLegacy` — a document and its projection.
* `isLegacyDocument_agrees` — **a document tells what its package and its projection tell.**
-/

namespace Catalog

open Json.Members

/-! ### Older fields -/

namespace LegacyField

theorem mem_all (f : LegacyField) : f ∈ all := by
  cases f <;> decide

theorem name_inj {f g : LegacyField} (h : f.name = g.name) : f = g := by
  cases f <;> cases g <;> first | rfl | exact absurd h (by decide)

end LegacyField

namespace Package

variable {p : Package} {v : Json} {f : LegacyField}

/-- Every field that the type of the package forbids is absent or empty. -/
def ForbidsOnlyBlank (p : Package) : Prop :=
  ∀ f, p.registryType.forbids f = true → p.legacyField? f = none ∨ p.legacyField? f = some ""

theorem mem_forbiddenFields_iff :
    f ∈ p.forbiddenFields ↔ p.registryType.forbids f = true ∧ p.legacyField? f ≠ none := by
  simp [forbiddenFields, LegacyField.mem_all, Option.isSome_iff_ne_none]

/-- The fields of the projection, looked up by name. -/
theorem textMember?_of_project? (h : project? v = some p) (f : LegacyField) :
    textMember? v.members f.name = some (p.legacyField? f) := by
  obtain ⟨type, url, identifier, version, hash, -, hurl, -, hversion, hhash, rfl⟩ :=
    project?_eq_some_iff.mp h
  cases f
  · exact hurl
  · exact hversion
  · exact hhash

/-! ### The older form -/

/-- The reasons for which a package is in the older form. That an image has a base URL or a version
is no reason of its own, since an image must have neither. -/
theorem isLegacy_iff : p.isLegacy = true ↔
    (∃ f, p.registryType.forbids f = true ∧ p.legacyField? f ≠ none) ∨
      p.registryType = .oci ∧ p.identifier ≠ "" ∧ ImageName.isBare p.identifier = true := by
  have hfields : (!p.forbiddenFields.isEmpty) = true ↔
      ∃ f, p.registryType.forbids f = true ∧ p.legacyField? f ≠ none := by
    simp only [Bool.not_eq_true', ← Bool.not_eq_true, List.isEmpty_iff, ← mem_forbiddenFields_iff]
    exact ⟨List.exists_mem_of_ne_nil _, fun ⟨_, hf⟩ => List.ne_nil_of_mem hf⟩
  rw [isLegacy, Bool.or_eq_true, hfields, isLegacyImage_eq_true_iff]
  constructor
  · rintro (⟨htype, hname, hurl | hversion | hbare⟩ | hforbidden)
    · exact Or.inl ⟨.registryBaseUrl, by rw [htype]; rfl, hurl⟩
    · exact Or.inl ⟨.version, by rw [htype]; rfl, hversion⟩
    · exact Or.inr ⟨htype, hname, hbare⟩
    · exact Or.inl hforbidden
  · rintro (hforbidden | ⟨htype, hname, hbare⟩)
    · exact Or.inr hforbidden
    · exact Or.inl ⟨htype, hname, Or.inr (Or.inr hbare)⟩

/-- What the projection leaves out does not count for the form. -/
theorem isLegacy_projection : p.projection.isLegacy = p.isLegacy := rfl

end Package

section

variable {v : Json} {q : Package} {type : String}

/-- The same reasons, as they are seen in a document with a registry type. -/
theorem isLegacyDocument_iff (h : v.members.string? "registryType" = some type) :
    isLegacyDocument v = true ↔
      (∃ f : LegacyField, (RegistryType.ofName type).forbids f = true ∧
          v.members.given? f.name ≠ none) ∨
        RegistryType.ofName type = .oci ∧ (v.members.string? "identifier").getD "" ≠ "" ∧
          ImageName.isBare ((v.members.string? "identifier").getD "") = true := by
  simp only [isLegacyDocument, h, Bool.or_eq_true, List.any_eq_true, Bool.and_eq_true, beq_iff_eq,
    LegacyField.mem_all, true_and]
  refine or_congr (exists_congr fun f => and_congr Iff.rfl ?_) (and_congr Iff.rfl ?_)
  · -- a member of a forbidden field is given
    rw [Json.get?, given?]
    cases value? v.members f.name with
    | none => simp
    | some w => cases w <;> simp [Json.isNull, Option.filter]
  · -- the identifier, where no text counts as the empty one
    cases v.members.string? "identifier" <;> simp

/-- A document is in the older form just when its projection is. -/
theorem isLegacyDocument_eq_isLegacy (h : Package.project? v = some q) :
    isLegacyDocument v = q.isLegacy := by
  have hfield : ∀ f : LegacyField, v.members.given? f.name ≠ none ↔ q.legacyField? f ≠ none := by
    intro f
    rw [Package.given?_of_textMember? (Package.textMember?_of_project? h f)]
    simp
  obtain ⟨type, url, identifier, version, hash, htype, -, hid, -, -, rfl⟩ :=
    Package.project?_eq_some_iff.mp h
  rw [Bool.eq_iff_iff, isLegacyDocument_iff htype, Package.isLegacy_iff,
    Package.string?_of_textMember? hid]
  simp only [hfield]

/-- **A document tells what its package and its projection tell** about the form. -/
theorem isLegacyDocument_agrees (v : Json) :
    (∀ p, Package.ofJson v = .ok p → isLegacyDocument v = p.isLegacy) ∧
      ∀ q, Package.project? v = some q → isLegacyDocument v = q.isLegacy := by
  refine ⟨fun p h => ?_, fun q => isLegacyDocument_eq_isLegacy⟩
  rw [← Package.isLegacy_projection]
  exact isLegacyDocument_eq_isLegacy (Package.project?_of_ofJson h)

/-- An image without a name, with a version and with a transport of the kind given. -/
def namelessEntry (kind : String) : Json :=
  .obj [("registryType", .str "oci"), ("identifier", .str ""), ("registryBaseUrl", .null),
    ("version", .str "1.0"), ("transport", .obj [("type", .str kind)])]

/-- The version alone makes it an older form, though there is no name to put it into; with a
transport of an unknown kind only the projection is left to tell. -/
theorem isLegacyDocument_agrees_namelessEntry :
    ∃ p q, Package.ofJson (namelessEntry "stdio") = .ok p ∧
      Package.project? (namelessEntry "websocket") = some q ∧
      (∃ d, Package.ofJson (namelessEntry "websocket") = .error d) ∧
      isLegacyDocument (namelessEntry "stdio") = p.isLegacy ∧
      isLegacyDocument (namelessEntry "websocket") = q.isLegacy ∧
      p.isLegacy = true ∧ q.isLegacy = true ∧ p.isLegacyImage = false :=
  ⟨_, _, rfl, rfl, ⟨_, rfl⟩, (isLegacyDocument_agrees _).1 _ rfl,
    (isLegacyDocument_agrees _).2 _ rfl, by decide, by decide, by decide⟩

end

end Catalog
