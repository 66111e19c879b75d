import Catalog.Clock
import Catalog.Image.Reference
import Catalog.Json.Fault
import Catalog.Package.RegistryType
import Catalog.Web.Exchange

/-!
# Errors

What can go wrong, as causes, and the wording of each in one function.

## Main definitions

* `FetchError` — an image could not be fetched.
* `OwnershipFault` — an artifact does not name its owner.
* `BundleFault` — a bundle is not where or what it should be.
* `ConfigFault` — a setting cannot be used.
* `StoreFault` — a record store cannot do what it is asked.
* `Error` — any of these, and all others.
-/

namespace Catalog

/-- The label of an image that names the server it belongs to. -/
def ownershipLabel : String := "io.modelcontextprotocol.server.name"

/-- What stands before the name of the owner in a README. -/
def ownershipMarker : String := "mcp-name:"

/-- Why metadata could not be fetched from a registry. -/
inductive FetchError where
  /-- The answer had a status that is no success. -/
  | status (status : Nat) (url : String)
  /-- The request got no usable answer. -/
  | http (url : String) (failure : Web.Failure)
  /-- The answer could not be understood. -/
  | decode (url : String) (reason : String)
  /-- The registry asked for a token that could not be had. -/
  | auth (url : String) (reason : String)
  /-- The manifest leads to no image configuration. -/
  | missingConfig (url : String)
  /-- The caller gave up. -/
  | cancelled
deriving DecidableEq, Repr, Inhabited

namespace FetchError

/-- The status of the answer, for the failures that have one. -/
def status? : FetchError → Option Nat
  | status n _ => some n
  | _ => none

/-- The wording of a failure. -/
def message : FetchError → String
  | status n url => "unexpected status " ++ toString n ++ " from " ++ url
  | http url failure => "request to " ++ url ++ " failed: " ++ failure.message
  | decode url reason => "invalid response from " ++ url ++ ": " ++ reason
  | auth url reason => "cannot satisfy auth challenge from " ++ url ++ ": " ++ reason
  | missingConfig url => "manifest at " ++ url ++ " has no usable image config"
  | cancelled => "fetch cancelled"

end FetchError

/-- How an artifact fails to name its owner. -/
inductive OwnershipFault where
  /-- The manifest of the package names no server. -/
  | unnamed (identifier owner : String)
  /-- The manifest of the package names another server. -/
  | otherName (owner actual : String)
  /-- The README does not name the server. -/
  | silentReadme (registry : RegistryType) (identifier owner : String)
  /-- The image has no ownership label. -/
  | unlabelled (identifier owner : String)
  /-- The ownership label of the image names another server. -/
  | otherLabel (owner actual : String)
deriving DecidableEq, Repr, Inhabited

/-- The wording of an ownership fault. -/
def OwnershipFault.message : OwnershipFault → String
  | unnamed identifier owner =>
    "NPM package '" ++ identifier ++ "' is missing required 'mcpName' field. "
      ++ "Add this to your package.json: \"mcpName\": \"" ++ owner ++ "\""
  | otherName owner actual =>
    "NPM package ownership validation failed. Expected mcpName '" ++ owner ++ "', got '"
      ++ actual ++ "'"
  | silentReadme registry identifier owner =>
    registry.label ++ " package '" ++ identifier
      ++ "' ownership validation failed. The server name '" ++ owner ++ "' must appear as '"
      ++ ownershipMarker ++ " " ++ owner ++ "' in the package README"
  | unlabelled identifier owner =>
    "OCI image '" ++ identifier ++ "' is missing required annotation. "
      ++ "Add this to your Dockerfile: LABEL " ++ ownershipLabel ++ "=\"" ++ owner ++ "\""
  | otherLabel owner actual =>
    "OCI image ownership validation failed. Expected annotation '" ++ ownershipLabel ++ "' = '"
      ++ owner ++ "', got '" ++ actual ++ "'"

/-- How a bundle is not where or what it should be. -/
inductive BundleFault where
  | notUrl (identifier : String) (fault : Url.Fault)
  | notHttps (identifier : String)
  | otherHost (allowed : List String) (host : String)
  | noHash
  | badHash (hash : String)
deriving DecidableEq, Repr, Inhabited

/-- The wording of a bundle fault. -/
def BundleFault.message : BundleFault → String
  | notUrl identifier fault =>
    "MCPB identifier '" ++ identifier ++ "' must be a download URL: " ++ fault.message
  | notHttps identifier => "MCPB identifier '" ++ identifier ++ "' must use https"
  | otherHost allowed host =>
    "MCPB packages must be hosted on one of: " ++ String.intercalate ", " allowed ++ " (got '"
      ++ host ++ "')"
  | noHash => "MCPB packages must have 'fileSha256' field"
  | badHash hash => "MCPB 'fileSha256' must be 64 lowercase hex characters, got '" ++ hash ++ "'"

/-- Why a setting cannot be used. -/
inductive ConfigFault where
  | hostPattern (pattern : String)
  | notBoolean (key value : String)
  | notNumber (key value : String)
  | notPolicy (key value : String)
  | noTimeout
  | notWebUrl (field url : String)
  | noHosts
  | noChunk
  /-- A migration in chunks without a size. -/
  | emptyChunks
  | noFile (path : String)
deriving DecidableEq, Repr, Inhabited

/-- The wording of a fault in a setting. -/
def ConfigFault.message : ConfigFault → String
  | hostPattern pattern => "invalid registry host pattern '" ++ pattern ++ "'"
  | notBoolean key value => key ++ " must be a boolean, got '" ++ value ++ "'"
  | notNumber key value => key ++ " must be a non-negative integer, got '" ++ value ++ "'"
  | notPolicy key value => key ++ " must be 'allowlist' or 'open', got '" ++ value ++ "'"
  | noTimeout => "validation.fetch_timeout_secs must be at least 1"
  | notWebUrl field url => field ++ " must be an http(s) URL, got '" ++ url ++ "'"
  | noHosts =>
    "oci.allowed_hosts must not be empty in allowlist mode "
      ++ "(use policy = \"open\" to accept any registry)"
  | noChunk => "migration.chunk_size must be at least 1"
  | emptyChunks => "migration chunk size must be greater than zero"
  | noFile path => "configuration file not found: " ++ path

/-- Why a record store cannot do what it is asked. -/
inductive StoreFault where
  | noRecord (id : String)
  /-- The document of a record is no object. -/
  | notObject (id : String)
  /-- The record file holds no records. -/
  | unreadable (path : String) (defect : Json.Defect)
  | noFile (path : String)
  /-- The store refuses an operation. -/
  | refused (text : String)
deriving DecidableEq, Repr, Inhabited

/-- The wording of a store fault. -/
def StoreFault.message : StoreFault → String
  | noRecord id => "record '" ++ id ++ "' not found"
  | notObject id => "record '" ++ id ++ "' is not a JSON object"
  | unreadable path defect => "failed to parse " ++ path ++ ": " ++ defect.message
  | noFile path => "record file not found: " ++ path
  | refused text => text

/-- Anything that can go wrong. -/
inductive Error where
  /-- A package carries a field that its type forbids. -/
  | forbiddenField (registryType : RegistryType) (field : LegacyField)
  | missingIdentifier (registryType : RegistryType)
  | missingVersion (registryType : RegistryType)
  | imageReference (reference : String) (fault : ImageReference.Fault)
  /-- The policy does not allow a registry. -/
  | registryRefused (host : String)
  | ownership (fault : OwnershipFault)
  | notFound (kind reference : String) (status : Nat)
  | fetch (kind : String) (cause : FetchError)
  | otherBaseUrl (registryType : RegistryType) (expected actual : String)
  | bundle (fault : BundleFault)
  | unsupportedRegistry (registryType : RegistryType)
  | transportUrl (url : String)
  | cancelled
  | timeout (limit : Duration)
  | store (fault : StoreFault)
  /-- The packages of a stored record are no array. -/
  | malformedRecord (id : String)
  | config (fault : ConfigFault)
  /-- The text of a configuration file is not well formed. -/
  | configText
  | io (text : String)
  | json (defect : Json.Defect)
  | other (text : String)
deriving DecidableEq, Repr, Inhabited

namespace Error

/-- What to do about a forbidden field. -/
def fieldHint : RegistryType → LegacyField → String
  | .oci, .registryBaseUrl =>
    " - use canonical reference in 'identifier' instead (e.g., 'docker.io/owner/image:1.0.0')"
  | .oci, .version =>
    " - include version in 'identifier' instead (e.g., 'docker.io/owner/image:1.0.0')"
  | .mcpb, .version => " - the version is part of the download URL in 'identifier'"
  | .mcpb, .registryBaseUrl => " - use the full download URL in 'identifier'"
  | .oci, .fileSha256 => ""
  | _, .fileSha256 => " - only MCPB packages carry a file hash"
  | _, _ => ""

/-- The wording of an error. -/
def message : Error → String
  | forbiddenField t field =>
    t.label ++ " packages must not have '" ++ field.name ++ "' field" ++ fieldHint t field
  | missingIdentifier t => "package identifier is required for " ++ t.label ++ " packages"
  | missingVersion t => "package version is required for " ++ t.label ++ " packages"
  | imageReference reference fault =>
    "invalid OCI reference '" ++ reference ++ "': " ++ fault.message
  | registryRefused host =>
    "unsupported registry '" ++ host
      ++ "': OCI images must be published to an approved registry"
  | ownership fault => fault.message
  | notFound kind reference status =>
    kind ++ " '" ++ reference ++ "' not found or not accessible (status: " ++ toString status
      ++ ")"
  | fetch kind cause => "failed to fetch " ++ kind ++ ": " ++ cause.message
  | otherBaseUrl t expected actual =>
    "registry type and base URL do not match: '" ++ actual ++ "' is not valid for " ++ t.label
      ++ " (expected '" ++ expected ++ "')"
  | bundle fault => fault.message
  | unsupportedRegistry t => "unsupported registry type: " ++ t.label
  | transportUrl url =>
    "invalid transport URL '" ++ url
      ++ "': must start with http:// or https:// and contain no whitespace"
  | cancelled => "Operation cancelled"
  | timeout limit => "Operation timed out after " ++ limit.text
  | store fault => "Record store error: " ++ fault.message
  | malformedRecord id => "Malformed record '" ++ id ++ "': 'packages' is not an array"
  | config fault => "Invalid configuration: " ++ fault.message
  | configText => "Failed to parse configuration"
  | io text => "IO error: " ++ text
  | json defect => "JSON error: " ++ defect.message
  | other text => text

/-- Whether the caller gave up or ran out of time. -/
def isCancellation : Error → Bool
  | cancelled | timeout _ => true
  | _ => false

end Error

end Catalog
