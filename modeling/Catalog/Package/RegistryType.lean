/-!
# Registry types

The registry that a package is published to. A registry type that is not known is kept as it was
written.

## Main definitions

* `RegistryType` — the known registries, and any other by its name.
* `LegacyField` — a field that only some registry types carry in the canonical form.
* `RegistryType.forbids` — which fields the canonical form of a type does not carry.
-/

namespace Catalog

/-- The registry that a package is published to. -/
inductive RegistryType where
  | npm
  | pypi
  | oci
  | nuget
  | mcpb
  /-- Any other registry, under the name it was given. -/
  | other (name : String)
deriving DecidableEq, Repr, Inhabited

namespace RegistryType

/-- The registry type with a name. -/
def ofName (name : String) : RegistryType :=
  if name = "npm" then npm
  else if name = "pypi" then pypi
  else if name = "oci" then oci
  else if name = "nuget" then nuget
  else if name = "mcpb" then mcpb
  else other name

/-- The name in a document. -/
def name : RegistryType → String
  | npm => "npm"
  | pypi => "pypi"
  | oci => "oci"
  | nuget => "nuget"
  | mcpb => "mcpb"
  | other name => name

/-- The name in messages. -/
def label : RegistryType → String
  | npm => "NPM"
  | pypi => "PyPI"
  | oci => "OCI"
  | nuget => "NuGet"
  | mcpb => "MCPB"
  | other name => name

/-- Reading a name keeps it. -/
@[simp] theorem name_ofName (s : String) : (ofName s).name = s := by
  unfold ofName
  repeat' split
  all_goals simp_all [name]

end RegistryType

/-- A field of the older package form that not every canonical package may carry. -/
inductive LegacyField where
  | registryBaseUrl
  | version
  | fileSha256
deriving DecidableEq, Repr, Inhabited

namespace LegacyField

/-- All legacy fields, in the order in which they are checked. -/
def all : List LegacyField := [registryBaseUrl, version, fileSha256]

/-- The name in a document. -/
def name : LegacyField → String
  | registryBaseUrl => "registryBaseUrl"
  | version => "version"
  | fileSha256 => "fileSha256"

end LegacyField

/-- Whether the canonical form of a registry type must not carry a field. An image reference tells
everything itself; a bundle only needs the hash of its file besides its URL; every other package
carries no file hash. -/
def RegistryType.forbids : RegistryType → LegacyField → Bool
  | .oci, _ => true
  | .mcpb, .fileSha256 => false
  | .mcpb, _ => true
  | _, .fileSha256 => true
  | _, _ => false

end Catalog
