import Catalog.Canonical.Pipeline
import Catalog.Package.Server
import Catalog.Validation.Transport

/-!
# Checking server documents

Everything about a server document that can be checked without asking a registry. All problems are
reported, in the order of the document.

## Main definitions

* `Package.findings` — what is wrong with a package.
* `Server.findings` — what is wrong with a server.
* `findingsOfText` — what is wrong with the text of a server document.
-/

namespace Catalog

open Text

namespace Package

/-- The identifier to write instead of the older form of an image. -/
def suggestion? (p : Package) : Option String :=
  if p.isLegacyImage then some ("use \"identifier\": \"" ++ p.canonicalize.identifier ++ "\"")
  else none

/-- Findings on the fields that the type of a package forbids. An empty one is tolerated. -/
def forbiddenFindings (p : Package) (location : String) : Findings :=
  (p.forbiddenFields.filter fun f => !(p.legacyField? f).any String.isEmpty).map fun f =>
    ⟨.error, location ++ "." ++ f.name, .forbiddenField p.registryType f p.suggestion?⟩

/-- Findings on the reference of an image. -/
def imageFindings (p : Package) (location : String) : Findings :=
  if p.identifier.isEmpty then []
  else
    (if ImageName.isBare p.identifier then
      Findings.error (location ++ ".identifier") (.bareImage p.identifier p.suggestion?)
    else [])
    ++ (match ImageReference.parse p.identifier with
      | .ok _ => []
      | .error fault =>
        Findings.error (location ++ ".identifier") (.badReference p.identifier fault))

/-- Findings on the file hash of a bundle. -/
def hashFindings (p : Package) (location : String) : Findings :=
  let place := location ++ "." ++ LegacyField.fileSha256.name
  match p.fileSha256 with
  | none => Findings.error place .missingFileHash
  | some hash =>
    if hash.isEmpty then Findings.error place .missingFileHash
    else if isHash hash.toList then []
    else Findings.error place (.badFileHash hash)

/-- Findings on the version of a package in the registry of an ecosystem. -/
def versionFindings (p : Package) (location : String) : Findings :=
  if p.version.all String.isEmpty then
    Findings.error (location ++ ".version") (.missingVersion p.registryType)
  else []

/-- Findings that depend on the registry type. -/
def registryFindings (p : Package) (location : String) : Findings :=
  match p.registryType with
  | .oci => p.imageFindings location
  | .mcpb => p.hashFindings location
  | .npm | .pypi | .nuget => p.versionFindings location
  | .other name => Findings.warning (location ++ ".registryType") (.unknownRegistry name)

/-- What is wrong with a package at a place of a document. -/
def findings (p : Package) (strict : Bool) (location : String) : Findings :=
  (if p.identifier.isEmpty then
    Findings.error (location ++ ".identifier") (.missingIdentifier p.registryType)
  else [])
    ++ p.forbiddenFindings location
    ++ p.registryFindings location
    ++ (match p.transport with
      | some t => t.findings strict (location ++ ".transport")
      | none => [])

end Package

/-- What is wrong with a hosted endpoint at a place of a document. -/
def remoteFindings (t : Transport) (strict : Bool) (location : String) : Findings :=
  if t.kind = .stdio then Findings.error (location ++ ".type") .localRemote
  else t.findings strict location

/-- The place of an element of an array. -/
def elementPlace (array : String) (index : Nat) : String :=
  array ++ "[" ++ toString index ++ "]"

/-- What is wrong with the elements of an array, the first of which has the index given. -/
def elementFindings {α : Type} (array : String) (check : α → String → Findings) :
    (index : Nat) → List α → Findings
  | _, [] => []
  | i, a :: as => check a (elementPlace array i) ++ elementFindings array check (i + 1) as

/-- What is wrong with a server. If `strict`, an undeclared URL variable is an error. -/
def Server.findings (s : Server) (strict : Bool) : Findings :=
  (if (trim s.name).isEmpty then Findings.error "name" .unnamedServer else [])
    ++ elementFindings "packages" (fun p => p.findings strict) 0 s.packageList
    ++ elementFindings "remotes" (fun t => remoteFindings t strict) 0 s.remoteList

/-- The place of a defect in a text. -/
def defectPlace (d : Json.Defect) : String :=
  let p := d.position.getD ⟨0, 0⟩
  "line " ++ toString p.line ++ ", column " ++ toString p.column

/-- What is wrong with the text of a server document. -/
def findingsOfText (text : String) (strict : Bool) : Findings :=
  match Server.ofText text with
  | .ok s => s.findings strict
  | .error d => Findings.error (defectPlace d) (.unreadable d)

end Catalog
