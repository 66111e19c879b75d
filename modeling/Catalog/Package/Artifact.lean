import Catalog.Error
import Catalog.Package.Shape

/-!
# Artifacts

What a package refers to, once its fields follow the rules of its registry type.

## Main definitions

* `Artifact` — a package whose fields follow the rules of its type.
* `Artifact.ofPackage` — the artifact of a package, or the first rule that it breaks.
-/

namespace Catalog

/-- An image, which its reference tells completely. -/
structure ImageArtifact where
  identifier : String
  transport : Option Transport
deriving DecidableEq, Repr, Inhabited

/-- A bundle: a download URL and the hash of the file. -/
structure BundleArtifact where
  identifier : String
  fileSha256 : Option String
  transport : Option Transport
deriving DecidableEq, Repr, Inhabited

/-- A package in a registry of an ecosystem. -/
structure NativeArtifact where
  identifier : String
  version : Option String
  registryBaseUrl : Option String
  transport : Option Transport
deriving DecidableEq, Repr, Inhabited

/-- A package whose fields follow the rules of its registry type. -/
inductive Artifact where
  | image (a : ImageArtifact)
  | bundle (a : BundleArtifact)
  | npm (a : NativeArtifact)
  | pypi (a : NativeArtifact)
  | nuget (a : NativeArtifact)
  | other (name : String) (identifier : String)
deriving DecidableEq, Repr, Inhabited

namespace Artifact

/-- The identifier of the artifact. -/
def identifier : Artifact → String
  | image a => a.identifier
  | bundle a => a.identifier
  | npm a | pypi a | nuget a => a.identifier
  | other _ identifier => identifier

/-- The registry type of the artifact. -/
def registryType : Artifact → RegistryType
  | image _ => .oci
  | bundle _ => .mcpb
  | npm _ => .npm
  | pypi _ => .pypi
  | nuget _ => .nuget
  | other name _ => .other name

/-- A text that is not empty. -/
def nonEmpty (s : Option String) : Option String := s.filter fun s => !s.isEmpty

/-- The first field that the type of a package forbids and that holds a text. -/
def forbiddenField? (p : Package) : Option LegacyField :=
  LegacyField.all.find? fun f =>
    p.registryType.forbids f && (nonEmpty (p.legacyField? f)).isSome

/-- The fields of a package in the registry of an ecosystem. -/
def native (p : Package) : NativeArtifact where
  identifier := p.identifier
  version := nonEmpty p.version
  registryBaseUrl := nonEmpty p.registryBaseUrl
  transport := p.transport

/-- The artifact of a package. An empty legacy field counts as absent. -/
def ofPackage (p : Package) : Except Error Artifact :=
  if p.identifier.isEmpty then .error (.missingIdentifier p.registryType)
  else
    match forbiddenField? p with
    | some f => .error (.forbiddenField p.registryType f)
    | none => .ok <|
      match p.registryType with
      | .oci => image ⟨p.identifier, p.transport⟩
      | .mcpb => bundle ⟨p.identifier, nonEmpty p.fileSha256, p.transport⟩
      | .npm => npm (native p)
      | .pypi => pypi (native p)
      | .nuget => nuget (native p)
      | .other name => other name p.identifier

end Artifact

end Catalog
