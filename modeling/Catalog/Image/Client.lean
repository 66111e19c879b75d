import Catalog.Image.Challenge
import Catalog.Image.Manifest
import Catalog.Web.Lookup

/-!
# Fetching image configurations

The way from a reference to the configuration of an image: its manifest, the manifest for a platform
if the first one is an index, and then the configuration itself. A registry that wants a token gets
an anonymous one, which is asked for once per image.

## Main definitions

* `ImageClient` — which registries are reached in the plain.
* `ImageClient.fetch` — the configuration of an image.
-/

namespace Catalog

open Json (Layout)

/-! ### Tokens -/

namespace Token

/-- The known members of an answer with a token. -/
def knownFields : List Layout.Field :=
  [.defaulted "token" (.optional .string), .defaulted "access_token" (.optional .string)]

/-- The layout of an answer with a token. -/
def layout : Layout := .closedRecord "TokenResponse" knownFields

/-- The token of an answer, under the first of its two names; an empty one is none. -/
def ofDocument (v : Json) : Option String :=
  let ms := Layout.recordMembers knownFields v
  ((ms.string? "token").or (ms.string? "access_token")).filter fun t => !t.isEmpty

end Token

/-! ### The client -/

/-- How registries are reached. -/
structure ImageClient where
  /-- The registries that are reached without encryption. -/
  plainHosts : List String
deriving DecidableEq, Repr, Inhabited

/-- Where an image is fetched, and with which token. -/
structure ImageSession where
  /-- The URL that all URLs of the repository start with. -/
  base : String
  /-- What a token is asked for. -/
  scope : String
  token : Option String
deriving DecidableEq, Repr, Inhabited

/-- A lookup that may fail. -/
abbrev Fetch (α : Type) : Type := ExceptT FetchError Lookup α

namespace ImageSession

/-- The request for a URL in a session. -/
def request (s : ImageSession) (url : String) (accept : Option String) : Web.Request :=
  ⟨url, [], accept, s.token⟩

/-- The response to a request, whatever its status is. -/
def send (request : Web.Request) : Fetch Web.Response := do
  match ← (Lookup.ask request : Lookup Web.Reply) with
  | .ok response => return response
  | .error failure => throw (.http request.url failure)

/-- Refuses a response without success. -/
def accepted (url : String) (response : Web.Response) : Fetch Web.Response :=
  if response.isSuccess then return response else throw (.status response.status url)

/-- The bytes of a response. -/
def body (url : String) (response : Web.Response) : Fetch (List UInt8) :=
  match response.body with
  | some body => return body.bytes
  | none => throw (.http url .body)

/-- The anonymous token that a challenge leads to. -/
def fetchToken (scope : String) (challenge : BearerChallenge) : Fetch String := do
  let url := challenge.realm
  let response ← accepted url (← send ⟨url, challenge.query scope, none, none⟩)
  match response.body.map fun body => Token.layout.decodeBytes body.bytes with
  | some (.ok v) =>
    match Token.ofDocument v with
    | some token => return token
    | none => throw (.auth url "token response has no token")
  | _ => throw (.auth url Web.Failure.body.message)

/-- The challenge that a response poses to a session, which answers only one. -/
def challenge? (s : ImageSession) (response : Web.Response) : Option BearerChallenge :=
  if response.status = Web.Response.unauthorized && s.token.isNone then
    response.challenge.bind BearerChallenge.parse?
  else none

/-- The successful response to a request for a URL, after a challenge with a token. -/
def get (s : ImageSession) (url : String) (accept : Option String) :
    Fetch (Web.Response × ImageSession) := do
  let response ← send (s.request url accept)
  match s.challenge? response with
  | none => return (← accepted url response, s)
  | some challenge =>
    let s := { s with token := some (← fetchToken s.scope challenge) }
    return (← accepted url (← send (s.request url accept)), s)

/-- The manifest with a name. -/
def manifest (s : ImageSession) (name : String) : Fetch (Manifest × ImageSession) := do
  let url := s.base ++ "/manifests/" ++ name
  let (response, s) ← s.get url (some Manifest.accepted)
  match Manifest.ofBytes response.contentType (← body url response) with
  | .ok m => return (m, s)
  | .error fault => throw (.decode url fault.message)

/-- The descriptor of the configuration that the manifest with a name leads to. -/
def configDescriptor (s : ImageSession) (name : String) : Fetch (Descriptor × ImageSession) := do
  match ← s.manifest name with
  | (.image config, s) => return (config, s)
  | (.index entries, s) =>
    match selectPlatform entries with
    | none =>
      throw (.decode (s.base ++ "/manifests/" ++ name) "image index has no linux image manifest")
    | some entry =>
      match ← s.manifest entry.digest with
      | (.image config, s) => return (config, s)
      | (.index _, s) => throw (.missingConfig (s.base ++ "/manifests/" ++ entry.digest))

/-- The configuration with a digest. -/
def config (s : ImageSession) (digest : String) : Fetch ImageConfig := do
  let url := s.base ++ "/blobs/" ++ digest
  let (response, _) ← s.get url none
  match ImageConfig.ofBytes (← body url response) with
  | .ok c => return c
  | .error defect => throw (.decode url defect.message)

end ImageSession

namespace ImageClient

/-- The host that the images of the default registry are fetched from. -/
def hubHost : String := "registry-1.docker.io"

/-- The URL that all URLs of a registry start with. -/
def baseUrl (c : ImageClient) (registry : String) : String :=
  (if c.plainHosts.contains registry then "http" else "https") ++ "://"
    ++ (if registry = ImageReference.defaultRegistry then hubHost else registry) ++ "/v2"

/-- The session in which an image is fetched. -/
def session (c : ImageClient) (r : ImageReference) : ImageSession where
  base := c.baseUrl r.registry ++ "/" ++ r.repository
  scope := BearerChallenge.pullScope r.repository
  token := none

/-- The configuration of an image. -/
def fetch (c : ImageClient) (r : ImageReference) : Lookup (Except FetchError ImageConfig) :=
  ExceptT.run do
    let (descriptor, s) ← (c.session r).configDescriptor r.manifestName
    s.config descriptor.digest

/-- The configuration of an image, unless the caller gave up before. -/
def fetchUnless (c : ImageClient) (cancelled : Bool) (r : ImageReference) :
    Lookup (Except FetchError ImageConfig) :=
  if cancelled then .done (.error .cancelled) else c.fetch r

end ImageClient

end Catalog
