import Catalog.Package.RegistryType
import Catalog.Package.Transport

/-!
# Packages

One installable artifact that a server version declares, in the older or in the canonical form.
Members without a meaning of their own are kept in order and written after the known ones.

## Main definitions

* `Package` — a declared package.
* `Package.ofJson`, `Package.toJson` — its document.
* `Package.project?` — the fields that canonicalization reads, of a document that is no package as a
  whole.
-/

namespace Catalog

open Json (Layout Members)

/-- One installable artifact that a server version declares. -/
structure Package where
  registryType : RegistryType
  registryBaseUrl : Option String
  /-- The name in the registry, an image reference or a download URL; empty when absent. -/
  identifier : String
  version : Option String
  fileSha256 : Option String
  runtimeHint : Option String
  transport : Option Transport
  /-- Members without a meaning of their own, in order. -/
  extra : Members
deriving DecidableEq, Repr, Inhabited

namespace Package

/-- A package with a type and an identifier only. -/
def ofIdentifier (registryType : RegistryType) (identifier : String) : Package :=
  ⟨registryType, none, identifier, none, none, none, none, []⟩

/-- The known members. -/
def knownFields : List Layout.Field :=
  [.required "registryType" .string,
   .defaulted "registryBaseUrl" (.optional .string),
   .defaulted "identifier" .string,
   .defaulted "version" (.optional .string),
   .defaulted "fileSha256" (.optional .string),
   .defaulted "runtimeHint" (.optional .string),
   .defaulted "transport" (.optional Transport.layout)]

/-- The layout of a package. -/
def layout : Layout := .openRecord "Package" knownFields

/-- The package that the members of a document with the layout describe. -/
def ofMembers (ms : Members) : Package where
  registryType := .ofName ((ms.string? "registryType").getD "")
  registryBaseUrl := ms.string? "registryBaseUrl"
  identifier := (ms.string? "identifier").getD ""
  version := ms.string? "version"
  fileSha256 := ms.string? "fileSha256"
  runtimeHint := ms.string? "runtimeHint"
  transport := (ms.object? "transport").map Transport.ofMembers
  extra := ms.others (knownFields.map (·.name))

/-- The package that a document describes. -/
def ofJson (v : Json) : Except Json.Defect Package :=
  (layout.decode v).map fun v => ofMembers v.members

/-- The package that a text describes. -/
def ofText (text : String) : Except Json.Defect Package :=
  (layout.decodeText text).map fun v => ofMembers v.members

/-- The members of the document of a package. -/
def toMembers (p : Package) : Members :=
  [("registryType", .str p.registryType.name)]
    ++ Members.given "registryBaseUrl" .str p.registryBaseUrl
    ++ (if p.identifier.isEmpty then [] else [("identifier", .str p.identifier)])
    ++ Members.given "version" .str p.version
    ++ Members.given "fileSha256" .str p.fileSha256
    ++ Members.given "runtimeHint" .str p.runtimeHint
    ++ Members.given "transport" Transport.toJson p.transport
    ++ p.extra

/-- The document of a package. -/
def toJson (p : Package) : Json := .obj p.toMembers

/-- The text of a member that may be absent or `null`; the inner `none` stands for absence, the
outer one for a value of another kind. -/
def textMember? (ms : Members) (key : String) : Option (Option String) :=
  match ms.value? key with
  | none | some .null => some none
  | some (.str s) => some (some s)
  | some _ => none

/-- The fields that canonicalization reads. The rest of the object is not looked at, so that a value
without a meaning does not hide the legacy fields. There is no projection without a registry type,
or when a field is not a text. -/
def project? (v : Json) : Option Package := do
  let ms := v.members
  let registryType ← ms.string? "registryType"
  let registryBaseUrl ← textMember? ms "registryBaseUrl"
  let identifier ← textMember? ms "identifier"
  let version ← textMember? ms "version"
  let fileSha256 ← textMember? ms "fileSha256"
  return {
    registryType := .ofName registryType
    registryBaseUrl
    identifier := identifier.getD ""
    version
    fileSha256
    runtimeHint := none
    transport := none
    extra := [] }

end Package

end Catalog
