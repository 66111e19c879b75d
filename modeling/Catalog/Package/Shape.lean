import Catalog.Image.Reference
import Catalog.Package.Basic

/-!
# Legacy and canonical packages

A package is legacy when it carries a field that its type forbids in the canonical form, or when it
is an image without a tag and digest. The same question can be asked of a document that is no
package as a whole.

## Main definitions

* `Package.legacyField?` — the value of a legacy field.
* `Package.isLegacy` — whether a package is in the older form.
* `isLegacyDocument` — the same for a document.
-/

namespace Catalog

namespace Package

/-- The value of a legacy field. The empty text counts as a value. -/
def legacyField? (p : Package) : LegacyField → Option String
  | .registryBaseUrl => p.registryBaseUrl
  | .version => p.version
  | .fileSha256 => p.fileSha256

/-- The fields that are present although the type of the package forbids them. -/
def forbiddenFields (p : Package) : List LegacyField :=
  LegacyField.all.filter fun f => p.registryType.forbids f && (p.legacyField? f).isSome

/-- Whether the package is an image whose name is yet to be put together. An empty identifier is
malformed and never legacy. -/
def isLegacyImage (p : Package) : Bool :=
  p.registryType == .oci && !p.identifier.isEmpty
    && (p.registryBaseUrl.isSome || p.version.isSome || ImageName.isBare p.identifier)

/-- Whether the package is in the older form. -/
def isLegacy (p : Package) : Bool := p.isLegacyImage || !p.forbiddenFields.isEmpty

end Package

/-- Whether a document is a package in the older form, judged by its legacy fields alone. A field
that is `null` is absent. -/
def isLegacyDocument (v : Json) : Bool :=
  match v.members.string? "registryType" with
  | none => false
  | some name =>
    let t := RegistryType.ofName name
    let forbidden := LegacyField.all.any fun f =>
      t.forbids f && (match v.get? f.name with
        | none | some .null => false
        | some _ => true)
    let bareImage := t == .oci && (match v.members.string? "identifier" with
      | some identifier => !identifier.isEmpty && ImageName.isBare identifier
      | none => false)
    forbidden || bareImage

end Catalog
