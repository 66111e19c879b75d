import Catalog.Error
import Catalog.Package.Transport

/-!
# Findings

What a check of a server document finds: a problem, the place of the document where it is, and
whether it makes the document invalid.

## Main definitions

* `Problem` — what can be wrong with a document.
* `Finding` — a problem, its place and its severity.
* `Findings` — all findings, in the order of the document.
-/

namespace Catalog

/-- What can be wrong with a server document. -/
inductive Problem where
  /-- The text is no server document. -/
  | unreadable (defect : Json.Defect)
  | unnamedServer
  | missingIdentifier (registryType : RegistryType)
  | missingFileHash
  | forbiddenField (registryType : RegistryType) (field : LegacyField)
      (suggestion : Option String)
  /-- An image without tag and digest. -/
  | bareImage (identifier : String) (suggestion : Option String)
  | badFileHash (hash : String)
  | missingUrl (kind : TransportKind)
  | badUrl (url : String)
  /-- A URL where none is used. -/
  | unexpectedUrl
  /-- A placeholder of a URL that no variable fills; `transport` is the place of the transport. -/
  | undeclaredVariable (name transport : String)
  | badReference (identifier : String) (fault : ImageReference.Fault)
  | missingVersion (registryType : RegistryType)
  | localRemote
  /-- A variable that does not occur in the URL. -/
  | unusedVariable (name : String)
  | unknownRegistry (name : String)
deriving DecidableEq, Repr, Inhabited

/-- The pattern of transport URLs, as messages show it. -/
def transportUrlPattern : String := "^https?://[^\\s]+$"

namespace Problem

/-- The short description of a problem. -/
def message : Problem → String
  | unreadable _ => "invalid server document"
  | unnamedServer | missingIdentifier _ | missingFileHash => "missing required field"
  | forbiddenField .. => "forbidden field"
  | bareImage .. => "OCI identifier without tag or digest"
  | badFileHash _ => "invalid fileSha256"
  | missingUrl _ => "missing transport URL"
  | badUrl _ => "invalid transport URL"
  | unexpectedUrl => "unexpected transport URL"
  | undeclaredVariable .. => "undeclared URL variable"
  | badReference .. => "invalid OCI reference"
  | missingVersion _ => "missing package version"
  | localRemote => "stdio remote"
  | unusedVariable _ => "unused URL variable"
  | unknownRegistry _ => "unknown registry type"

/-- The explanation of a problem. -/
def details : Problem → String
  | unreadable defect => defect.message
  | unnamedServer => "server name is required"
  | missingIdentifier t => "package identifier is required for " ++ t.label ++ " packages"
  | missingFileHash => "MCPB packages must have 'fileSha256' field"
  | forbiddenField t field _ => t.label ++ " packages must not have '" ++ field.name ++ "' field"
  | bareImage identifier _ =>
    "'" ++ identifier
      ++ "' does not pin a tag or digest; include the version in the identifier"
  | badFileHash hash => "'" ++ hash ++ "' is not 64 lowercase hex characters"
  | missingUrl kind => "'" ++ kind.name ++ "' transports require a URL"
  | badUrl url => (Error.transportUrl url).message
  | unexpectedUrl => "stdio transports run a local process and must not declare a URL"
  | undeclaredVariable name _ =>
    "URL placeholder '\x7b" ++ name ++ "\x7d' has no entry in 'variables'"
  | badReference identifier fault => (Error.imageReference identifier fault).message
  | missingVersion t => "package version is required for " ++ t.label ++ " packages"
  | localRemote =>
    "remotes are reached over the network and cannot use the stdio transport"
  | unusedVariable name => "variable '" ++ name ++ "' does not appear in the URL"
  | unknownRegistry name => "no validator exists for registry type '" ++ name ++ "'"

/-- What to do about a problem. -/
def help? : Problem → Option String
  | forbiddenField _ _ suggestion | bareImage _ suggestion => suggestion
  | missingFileHash => some "compute it with `sha256sum <bundle>.mcpb`"
  | badUrl _ => some ("expected a URL matching " ++ transportUrlPattern)
  | unexpectedUrl =>
    some "remove 'url' or use the 'streamable-http' or 'sse' transport"
  | undeclaredVariable name transport =>
    some ("declare '" ++ name ++ "' under " ++ transport
      ++ ".variables so clients can prompt for it")
  | localRemote => some "use 'streamable-http' or 'sse'"
  | _ => none

end Problem

/-- Whether a finding makes a document invalid. -/
inductive Severity where
  | error
  | warning
deriving DecidableEq, Repr, Inhabited

/-- A problem, the place where it is and how severe it is. -/
structure Finding where
  severity : Severity
  location : String
  problem : Problem
deriving DecidableEq, Repr, Inhabited

namespace Finding

/-- The code of a finding. Only an undeclared variable has two, one for each severity. -/
def code (f : Finding) : String :=
  match f.problem with
  | .unreadable _ => "E001"
  | .unnamedServer | .missingIdentifier _ | .missingFileHash => "E002"
  | .forbiddenField .. => "E003"
  | .bareImage .. => "E004"
  | .badFileHash _ => "E005"
  | .missingUrl _ => "E006"
  | .badUrl _ => "E007"
  | .unexpectedUrl => "E008"
  | .undeclaredVariable .. =>
    match f.severity with
    | .error => "E009"
    | .warning => "W001"
  | .badReference .. => "E010"
  | .missingVersion _ => "E011"
  | .localRemote => "E012"
  | .unusedVariable _ => "W002"
  | .unknownRegistry _ => "W003"

/-- The document of a finding. -/
def toJson (f : Finding) : Json :=
  .obj <| [("code", .str f.code), ("message", .str f.problem.message),
    ("location", .str f.location), ("details", .str f.problem.details)]
    ++ Json.Members.given "help" .str f.problem.help?

end Finding

/-- All findings, in the order of the document. -/
abbrev Findings := List Finding

namespace Findings

/-- A single error. -/
def error (location : String) (problem : Problem) : Findings := [⟨.error, location, problem⟩]

/-- A single warning. -/
def warning (location : String) (problem : Problem) : Findings := [⟨.warning, location, problem⟩]

/-- The errors, in order. -/
def errors (fs : Findings) : Findings := fs.filter fun f => f.severity = .error

/-- The warnings, in order. -/
def warnings (fs : Findings) : Findings := fs.filter fun f => f.severity = .warning

/-- Whether there is no error. -/
def isValid (fs : Findings) : Bool := fs.errors.isEmpty

/-- Whether there is nothing at all. -/
def isStrictlyValid (fs : Findings) : Bool := fs.errors.isEmpty && fs.warnings.isEmpty

@[simp] theorem errors_append (a b : Findings) : errors (a ++ b) = a.errors ++ b.errors := by
  simp [errors]

@[simp] theorem warnings_append (a b : Findings) :
    warnings (a ++ b) = a.warnings ++ b.warnings := by
  simp [warnings]

end Findings

end Catalog
