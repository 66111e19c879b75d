import Catalog.Context
import Catalog.Image.Client
import Catalog.Image.HostPolicy
import Catalog.Ownership.Bundle
import Catalog.Ownership.Native
import Catalog.Settings.Basic

/-!
# Verifying packages

Whether packages belong to the one who publishes them. All that can be told from a package alone is
checked before anything is asked of a registry.

## Main definitions

* `Verifier` — the registries, and what is allowed.
* `Verifier.verify` — what a package comes to, as a lookup.
* `Verifier.verifyRemotely` — the same with a client for images.
* `Limits.runLookup` — the result of a lookup in a world under limits.
-/

namespace Catalog

/-- The registries to ask, and what is allowed. -/
structure Verifier where
  /-- Whether packages are looked up at all. -/
  enabled : Bool
  policy : HostPolicy
  npmBaseUrl : String
  pypiBaseUrl : String
  nugetBaseUrl : String
  bundleHosts : List String
deriving DecidableEq, Repr, Inhabited

namespace Verifier

/-- The verifier that settings describe. -/
def ofSettings (s : Settings) : Except ConfigFault Verifier := do
  return {
    enabled := s.lookupEnabled
    policy := ← s.hostPolicy
    npmBaseUrl := s.npmBaseUrl
    pypiBaseUrl := s.pypiBaseUrl
    nugetBaseUrl := s.nugetBaseUrl
    bundleHosts := s.bundleHosts }

/-- The verifier when nothing is configured. -/
def standard : Verifier where
  enabled := true
  policy := .standard
  npmBaseUrl := Settings.standard.npmBaseUrl
  pypiBaseUrl := Settings.standard.pypiBaseUrl
  nugetBaseUrl := Settings.standard.nugetBaseUrl
  bundleHosts := Settings.standard.bundleHosts

/-- The base URL of the registry of an ecosystem. -/
def baseUrl (v : Verifier) : Ecosystem → String
  | .npm => v.npmBaseUrl
  | .pypi => v.pypiBaseUrl
  | .nuget => v.nugetBaseUrl

/-! ### Images -/

/-- What images are called. -/
def imageKind : String := "OCI image"

/-- What the reply for an image comes to. A registry that wants to know who is there does not have
the image for everyone. -/
def judgeImage (identifier owner : String) (reply : Except FetchError ImageConfig) :
    Except Error Outcome :=
  match reply with
  | .ok config => (checkLabel identifier config owner).map fun _ => .verified
  | .error .cancelled => .error .cancelled
  | .error cause =>
    match cause.status? with
    | none => .error (.fetch imageKind cause)
    | some status =>
      if status = Web.Response.tooManyRequests then .ok (.rateLimited identifier)
      else if status = Web.Response.unauthorized || status = Web.Response.notFound then
        .error (.notFound imageKind identifier status)
      else .error (.fetch imageKind cause)

/-- The image to ask for, once everything that can be told from the package is right. -/
def imageToFetch (v : Verifier) (p : Package) : Except Error ImageReference := do
  let a ← Artifact.ofPackage p
  let r ← (ImageReference.parse a.identifier).mapError (.imageReference a.identifier)
  v.policy.check r
  return r

/-- What an image package comes to. -/
def verifyImage (v : Verifier) (p : Package) (owner : String) : Lookup (Except Error Outcome) :=
  match v.imageToFetch p with
  | .error e => .done (.error e)
  | .ok r => .image r fun reply => .done (judgeImage p.identifier owner reply)

/-! ### All packages -/

/-- What an artifact that is no image comes to. -/
def verifyArtifact (v : Verifier) (p : Package) (owner : String) :
    Artifact → Lookup (Except Error Outcome)
  | .npm a => Ecosystem.npm.verify v.npmBaseUrl a owner
  | .pypi a => Ecosystem.pypi.verify v.pypiBaseUrl a owner
  | .nuget a => Ecosystem.nuget.verify v.nugetBaseUrl a owner
  | .bundle a =>
    .done <| match a.check v.bundleHosts with
      | .ok () => .ok .verified
      | .error fault => .error (.bundle fault)
  | .image _ => v.verifyImage p owner
  | .other name _ => .done (.error (.unsupportedRegistry (.other name)))

/-- A lookup that asks nothing when it is cancelled before it starts. -/
def unlessCancelled (cancelled : Bool) (x : Lookup (Except Error Outcome)) :
    Lookup (Except Error Outcome) :=
  if cancelled then .done (.error .cancelled) else x

/-- What a package comes to. The fields of an image package are checked under the limits of the
caller, those of all others before. -/
def verify (v : Verifier) (cancelled : Bool) (p : Package) (owner : String) :
    Lookup (Except Error Outcome) :=
  if !v.enabled then .done (.ok .disabled)
  else if p.registryType = .oci then unlessCancelled cancelled (v.verifyImage p owner)
  else
    match Artifact.ofPackage p with
    | .error e => .done (.error e)
    | .ok a => unlessCancelled cancelled (v.verifyArtifact p owner a)

/-- What a package comes to, where a client fetches the images. -/
def verifyRemotely (v : Verifier) (client : ImageClient) (cancelled : Bool) (p : Package)
    (owner : String) : Lookup (Except Error Outcome) :=
  (v.verify cancelled p owner).resolveImages client.fetch

end Verifier

/-- The result of a lookup in a world under limits, and what was asked. An answer that never comes
runs into the time limit, if there is one. -/
def Limits.runLookup {α : Type} (l : Limits) (w : World) (x : Lookup (Except Error α)) :
    Option (Except Error α) × Lookup.Trace :=
  let (result, trace) := x.run w
  (result.or (l.run none), trace)

end Catalog
