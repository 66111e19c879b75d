import Catalog.Image.HostPolicy
import Catalog.Url.Basic

/-!
# Settings

What can be configured, with the values that hold when nothing is.

## Main definitions

* `Settings` — all settings.
* `Settings.standard` — the values that hold when nothing is configured.
* `Settings.check` — refuses settings that cannot be worked with.
-/

namespace Catalog

/-- All settings. -/
structure Settings where
  /-- Whether packages are looked up in their registries at all. -/
  lookupEnabled : Bool
  /-- How many seconds the lookup of one package may take. -/
  timeoutSeconds : Nat
  npmBaseUrl : String
  pypiBaseUrl : String
  nugetBaseUrl : String
  /-- The hosts that bundles may be downloaded from. -/
  bundleHosts : List String
  policy : PolicyMode
  /-- The patterns of the hosts that images may come from. -/
  imageHosts : List String
  /-- The image registries that are reached without encryption. -/
  plainHosts : List String
  /-- Whether an undeclared placeholder in a URL is an error. -/
  strictVariables : Bool
  /-- How many records a chunk of a migration has. -/
  chunkSize : Nat
deriving DecidableEq, Repr, Inhabited

namespace Settings

/-- The values that hold when nothing is configured. -/
def standard : Settings where
  lookupEnabled := true
  timeoutSeconds := 30
  npmBaseUrl := "https://registry.npmjs.org"
  pypiBaseUrl := "https://pypi.org"
  nugetBaseUrl := "https://api.nuget.org"
  bundleHosts := ["github.com", "gitlab.com"]
  policy := .allowlist
  imageHosts := HostPolicy.defaultHosts
  plainHosts := []
  strictVariables := false
  chunkSize := 500

/-- The time that the lookup of one package may take. -/
def timeout (s : Settings) : Duration := .ofSeconds s.timeoutSeconds

/-- The policy for images. -/
def hostPolicy (s : Settings) : Except ConfigFault HostPolicy :=
  HostPolicy.ofMode s.policy s.imageHosts

/-! ### Checks -/

/-- Whether a text is the URL of a web server. -/
def isWebUrl (url : String) : Bool :=
  ("https://".toList.isPrefixOf url.toList || "http://".toList.isPrefixOf url.toList)
    && (Url.parse url).isOk

/-- Refuses a base URL that is none of a web server. -/
def checkBaseUrl (field url : String) : Except ConfigFault Unit :=
  if isWebUrl url then .ok () else .error (.notWebUrl field url)

/-- Refuses settings that cannot be worked with. -/
def check (s : Settings) : Except ConfigFault Unit := do
  if s.timeoutSeconds = 0 then throw .noTimeout
  checkBaseUrl "validation.npm_base_url" s.npmBaseUrl
  checkBaseUrl "validation.pypi_base_url" s.pypiBaseUrl
  checkBaseUrl "validation.nuget_base_url" s.nugetBaseUrl
  if s.policy = .allowlist && s.imageHosts.isEmpty then throw .noHosts
  s.imageHosts.forM fun host => discard (HostPattern.parse host)
  if s.chunkSize = 0 then throw .noChunk

/-! ### As a document -/

/-- The document of settings. -/
def toJson (s : Settings) : Json :=
  .obj
    [("validation", .obj
      [("enable_registry_validation", .bool s.lookupEnabled),
       ("fetch_timeout_secs", Json.ofNat s.timeoutSeconds),
       ("npm_base_url", .str s.npmBaseUrl),
       ("pypi_base_url", .str s.pypiBaseUrl),
       ("nuget_base_url", .str s.nugetBaseUrl),
       ("mcpb_allowed_hosts", Json.ofStrings s.bundleHosts)]),
     ("oci", .obj
      [("policy", .str s.policy.name),
       ("allowed_hosts", Json.ofStrings s.imageHosts),
       ("plain_http_hosts", Json.ofStrings s.plainHosts)]),
     ("transport", .obj [("strict_url_variables", .bool s.strictVariables)]),
     ("migration", .obj [("chunk_size", Json.ofNat s.chunkSize)])]

end Settings

end Catalog
