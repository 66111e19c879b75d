import Catalog.Ownership.Declaration
import Catalog.Ownership.Outcome
import Catalog.Package.Artifact
import Catalog.Text.Lowercase
import Catalog.Web.Lookup

/-!
# Packages of ecosystems

Looking up a package in the registry of its ecosystem: the page to ask for, and where on it the
owner is named.

## Main definitions

* `Ecosystem` — the registries with a page for each version of a package.
* `Ecosystem.verify` — whether a package names its owner.
-/

namespace Catalog

open Json (Layout)
open Text

/-- The registries with a page for each version of a package. -/
inductive Ecosystem where
  | npm
  | pypi
  | nuget
deriving DecidableEq, Repr, Inhabited

namespace Ecosystem

/-- The registry type of the packages. -/
def registryType : Ecosystem → RegistryType
  | npm => .npm
  | pypi => .pypi
  | nuget => .nuget

/-- What the packages are called. -/
def kind (e : Ecosystem) : String := e.registryType.label ++ " package"

/-! ### Where to look -/

/-- A version of a package, as the registry writes it. -/
structure Release where
  identifier : String
  version : String
deriving DecidableEq, Repr, Inhabited

/-- The release that a version of a package is looked up as. -/
def release (e : Ecosystem) (identifier version : String) : Release :=
  match e with
  | nuget => ⟨lowercase identifier, lowercase version⟩
  | _ => ⟨identifier, version⟩

/-- The page of a release below the base URL of the registry. -/
def pagePath (e : Ecosystem) (r : Release) : String :=
  match e with
  | npm => "/" ++ r.identifier ++ "/" ++ r.version
  | pypi => "/pypi/" ++ r.identifier ++ "/" ++ r.version ++ "/json"
  | nuget => "/v3-flatcontainer/" ++ r.identifier ++ "/" ++ r.version ++ "/readme"

/-- The URL of the page of a release. -/
def pageUrl (e : Ecosystem) (baseUrl : String) (r : Release) : String :=
  dropTrailingSlashes baseUrl ++ e.pagePath r

/-- How a version of a package is called in messages. -/
def referenceText (e : Ecosystem) (identifier version : String) : String :=
  match e with
  | npm => identifier ++ "@" ++ version
  | pypi => identifier ++ "==" ++ version
  | nuget => identifier ++ " " ++ lowercase version

/-- Refuses a package that declares another registry than the one that is configured. -/
def checkBaseUrl (e : Ecosystem) (declared : Option String) (expected : String) :
    Except Error Unit :=
  match Artifact.nonEmpty declared with
  | none => .ok ()
  | some actual =>
    if dropTrailingSlashes actual = dropTrailingSlashes expected then .ok ()
    else .error (.otherBaseUrl e.registryType expected actual)

/-! ### What to look for -/

/-- The known members of the page of an npm release. -/
def npmFields : List Layout.Field := [.defaulted "mcpName" (.optional .string)]

/-- The known members of the description of a PyPI release. -/
def pypiInfoFields : List Layout.Field := [.defaulted "description" (.optional .string)]

/-- The known members of the page of a PyPI release. -/
def pypiFields : List Layout.Field := [.required "info" (.closedRecord "PypiInfo" pypiInfoFields)]

/-- Whether a page names the owner, where `unreadable` wraps a page that cannot be understood. -/
def checkPage (e : Ecosystem) (identifier owner : String) (unreadable : Json.Defect → Error)
    (body : Web.Body) : Except Error Unit :=
  match e with
  | npm => do
    let layout := Layout.closedRecord "NpmVersion" npmFields
    let v ← (layout.decodeBytes body.bytes).mapError unreadable
    checkName identifier ((Layout.recordMembers npmFields v).string? "mcpName") owner
  | pypi => do
    let layout := Layout.closedRecord "PypiRelease" pypiFields
    let v ← (layout.decodeBytes body.bytes).mapError unreadable
    let info := ((Layout.recordMembers pypiFields v).value? "info").getD .null
    let description := (Layout.recordMembers pypiInfoFields info).string? "description"
    checkReadme .pypi identifier (description.getD "") owner
  | nuget => checkReadme .nuget identifier body.text owner

/-! ### Looking -/

/-- What the reply for the page of a package comes to. -/
def judge (e : Ecosystem) (identifier owner reference url : String) (reply : Web.Reply) :
    Except Error Outcome :=
  let failed (cause : FetchError) : Except Error Outcome := .error (.fetch e.kind cause)
  match reply with
  | .error failure => failed (.http url failure)
  | .ok response =>
    if response.isSuccess then
      match response.body with
      | none => failed (.http url .body)
      | some body =>
        (e.checkPage identifier owner (fun d => .fetch e.kind (.decode url d.message)) body).map
          fun _ => .verified
    else if response.status = Web.Response.tooManyRequests then .ok (.rateLimited reference)
    else if response.status = Web.Response.notFound then
      .error (.notFound e.kind reference response.status)
    else failed (.status response.status url)

/-- Whether a package names its owner in the registry with a base URL. -/
def verify (e : Ecosystem) (baseUrl : String) (a : NativeArtifact) (owner : String) :
    Lookup (Except Error Outcome) :=
  match e.checkBaseUrl a.registryBaseUrl baseUrl, a.version with
  | .error fault, _ => .done (.error fault)
  | .ok (), none => .done (.error (.missingVersion e.registryType))
  | .ok (), some version =>
    let url := e.pageUrl baseUrl (e.release a.identifier version)
    (Lookup.ask (.plain url)).bind fun reply =>
      .done (e.judge a.identifier owner (e.referenceText a.identifier version) url reply)

end Ecosystem

end Catalog
