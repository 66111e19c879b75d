import Catalog.Image.Reference
import Catalog.Package.Shape

/-!
# Canonical packages

The canonical form of a package is reached in four stages: an image gets one reference that tells
everything, a bundle loses what its URL tells already, a file hash stays with bundles only, and a
package without a transport gets the one over standard input and output.

## Main definitions

* `Stage` — a named step towards the canonical form.
* `Pipeline` — stages, applied one after another.
* `Package.canonicalize` — the standard pipeline.
-/

namespace Catalog

open Text

/-! ### Registry hosts -/

/-- The host of a registry base URL: the text without blanks around it, without the scheme of the
web and without slashes at its end. -/
def registryHost (baseUrl : String) : String :=
  let text := trim baseUrl
  let rest := ((afterFront? "https://".toList text.toList).or
    (afterFront? "http://".toList text.toList)).getD text.toList
  String.ofList (stripBack (· == '/') rest)

/-! ### The stages -/

namespace Package

/-- The host that the older fields of an image name. -/
def legacyHost (p : Package) : String :=
  match p.registryBaseUrl.map registryHost with
  | some host => if host.isEmpty then ImageReference.defaultRegistry else host
  | none => ImageReference.defaultRegistry

/-- The tag that the older fields of an image name. -/
def legacyTag (p : Package) : String :=
  match p.version with
  | some version => if version.isEmpty then ImageReference.defaultTag else version
  | none => ImageReference.defaultTag

/-- The identifier of an image with its host in front. -/
def hostedIdentifier (p : Package) : String :=
  if ImageName.namesHost p.identifier then p.identifier
  else p.legacyHost ++ "/" ++ p.identifier

/-- The identifier of an image with its host in front and its tag at the end. -/
def fullIdentifier (p : Package) : String :=
  if ImageName.isBare p.hostedIdentifier then p.hostedIdentifier ++ ":" ++ p.legacyTag
  else p.hostedIdentifier

/-- Puts the older fields of an image into its identifier. -/
def completeIdentifier (p : Package) : Package :=
  if p.isLegacyImage then
    { p with registryBaseUrl := none, version := none, identifier := p.fullIdentifier }
  else p

/-- Drops the fields of a bundle that its URL tells. -/
def simplifyBundle (p : Package) : Package :=
  if p.registryType = .mcpb then { p with version := none, registryBaseUrl := none } else p

/-- Drops the file hash of anything but a bundle. -/
def stripForbiddenFields (p : Package) : Package :=
  if p.registryType = .mcpb then p else { p with fileSha256 := none }

/-- Gives a package without a transport the one over standard input and output. -/
def defaultTransport (p : Package) : Package :=
  match p.transport with
  | none => { p with transport := some .stdio }
  | some _ => p

end Package

/-! ### Pipelines -/

/-- A named step towards the canonical form. -/
structure Stage where
  name : String
  apply : Package → Package

namespace Stage

/-- Puts the older fields of an image into its identifier. -/
def completeIdentifier : Stage := ⟨"oci-rewrite", Package.completeIdentifier⟩

/-- Drops the fields of a bundle that its URL tells. -/
def simplifyBundle : Stage := ⟨"mcpb-rewrite", Package.simplifyBundle⟩

/-- Drops the file hash of anything but a bundle. -/
def stripForbiddenFields : Stage := ⟨"strip-forbidden-fields", Package.stripForbiddenFields⟩

/-- Gives a package without a transport the standard one. -/
def defaultTransport : Stage := ⟨"default-transport", Package.defaultTransport⟩

end Stage

/-- Stages, applied one after another. -/
structure Pipeline where
  stages : List Stage

namespace Pipeline

/-- The pipeline without stages. -/
def empty : Pipeline := ⟨[]⟩

/-- The pipeline with one more stage at its end. -/
def andThen (p : Pipeline) (s : Stage) : Pipeline := ⟨p.stages ++ [s]⟩

/-- The pipeline that makes a package canonical. -/
def standard : Pipeline :=
  ⟨[.completeIdentifier, .simplifyBundle, .stripForbiddenFields, .defaultTransport]⟩

/-- The names of the stages, in order. -/
def names (p : Pipeline) : List String := p.stages.map (·.name)

/-- Applies the stages one after another. -/
def run (p : Pipeline) (package : Package) : Package :=
  p.stages.foldl (fun q s => s.apply q) package

@[simp] theorem run_empty (package : Package) : empty.run package = package := rfl

/-- A stage at the end is applied last. -/
@[simp] theorem run_andThen (p : Pipeline) (s : Stage) (package : Package) :
    (p.andThen s).run package = s.apply (p.run package) := by
  simp [run, andThen]

end Pipeline

/-- The canonical form of a package. -/
def Package.canonicalize (p : Package) : Package := Pipeline.standard.run p

/-- The canonical form is reached by the four stages in order. -/
theorem Package.canonicalize_eq (p : Package) :
    p.canonicalize =
      p.completeIdentifier.simplifyBundle.stripForbiddenFields.defaultTransport := rfl

end Catalog
