import Catalog.Error
import Catalog.Package.Basic

/-!
# Outcomes of lookups

What looking up a package in its registry comes to, and how that is reported.

## Main definitions

* `Outcome` — the package belongs to its owner, or was not looked up.
* `PackageCheck` — the outcome for one package of a server.
-/

namespace Catalog

/-- What looking up a package comes to when nothing is wrong. -/
inductive Outcome where
  /-- The package names its owner. -/
  | verified
  /-- Packages are not looked up. -/
  | disabled
  /-- The registry is asked too often. -/
  | rateLimited (reference : String)
deriving DecidableEq, Repr, Inhabited

namespace Outcome

/-- Why the package was not looked up. -/
def reason? : Outcome → Option String
  | verified => none
  | disabled => some "registry validation is disabled"
  | rateLimited reference => some ("rate limited while validating " ++ reference)

/-- Whether the package names its owner. -/
def isVerified (o : Outcome) : Bool := o == verified

/-- The name of an outcome. -/
def status (o : Outcome) : String := if o.isVerified then "verified" else "skipped"

/-- The document of an outcome. -/
def toJson (o : Outcome) : Json :=
  .obj ([("status", .str o.status)] ++ (o.reason?.map fun r => ("reason", Json.str r)).toList)

end Outcome

/-- The outcome for one package of a server. -/
structure PackageCheck where
  /-- The position of the package. -/
  index : Nat
  registryType : RegistryType
  identifier : String
  result : Except Error Outcome

namespace PackageCheck

/-- Whether something is wrong with the package. -/
def isFailed (c : PackageCheck) : Bool := !c.result.isOk

/-- The name of the outcome. -/
def status (c : PackageCheck) : String :=
  match c.result with
  | .ok outcome => outcome.status
  | .error _ => "failed"

/-- What is wrong, or why the package was not looked up. -/
def detail? (c : PackageCheck) : Option String :=
  match c.result with
  | .ok outcome => outcome.reason?
  | .error e => some e.message

/-- The document of an outcome for one package. -/
def toJson (c : PackageCheck) : Json :=
  .obj ([("index", Json.ofNat c.index), ("registryType", .str c.registryType.name),
      ("identifier", .str c.identifier), ("status", .str c.status)]
    ++ (c.detail?.map fun d => ("detail", Json.str d)).toList)

/-- The outcomes for the packages of a server, in order. -/
def ofResults (packages : List Package) (results : List (Except Error Outcome)) :
    List PackageCheck :=
  (packages.zip results).mapIdx fun i (p, result) => ⟨i, p.registryType, p.identifier, result⟩

end PackageCheck

end Catalog
