import Catalog.Canonical.Pipeline
import Catalog.Package.Server

/-!
# Canonical documents

The canonical form of stored documents. A package that is canonical already is kept to the letter.
An object that is no package as a whole has only its legacy fields changed, so that one value
without a meaning does not stand in the way. Anything else is kept.

## Main definitions

* `Server.canonicalize` — a server with canonical packages.
* `canonicalizePackage` — one element of a `packages` array.
* `canonicalizePackages` — a `packages` array.
* `canonicalizeDocument` — a stored server document.
-/

namespace Catalog

open Json (Members)

/-- The server with canonical packages. -/
def Server.canonicalize (s : Server) : Server :=
  { s with packages := s.packages.map fun ps => ps.map Package.canonicalize }

/-- Writes the canonical fields of a projected package back into its object. A member with a value
is removed when the canonical form has none. A transport that is present is never replaced. -/
def writeBack (ms : Members) (c : Package) : Members :=
  let named := if c.identifier.isEmpty then ms else ms.set "identifier" (.str c.identifier)
  let stripped := LegacyField.all.foldl
    (fun acc f =>
      let stored := match ms.value? f.name with
        | none | some .null => false
        | some _ => true
      if stored && (c.legacyField? f).isNone then Members.remove acc f.name else acc) named
  match ms.value? "transport", c.transport with
  | none, some t | some .null, some t => stripped.set "transport" t.toJson
  | _, _ => stripped

/-- The canonical form of an object that is no package as a whole. -/
def canonicalizeInPlace (v : Json) : Json :=
  match v, Package.project? v with
  | .obj ms, some p => .obj (writeBack ms p.canonicalize)
  | _, _ => v

/-- The canonical form of one element of a `packages` array. -/
def canonicalizePackage (v : Json) : Json :=
  match Package.ofJson v with
  | .error _ => canonicalizeInPlace v
  | .ok p => if p.canonicalize = p then v else p.canonicalize.toJson

/-- The canonical form of a `packages` array. Anything else is kept. -/
def canonicalizePackages : Json → Json
  | .arr xs => .arr (xs.map canonicalizePackage)
  | v => v

/-- The canonical form of a stored server document: only its `packages` member changes. -/
def canonicalizeDocument (v : Json) : Json :=
  match v.get? "packages" with
  | some packages => .obj (v.members.set "packages" (canonicalizePackages packages))
  | none => v

end Catalog
