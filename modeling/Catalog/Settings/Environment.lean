import Catalog.Settings.Basic
import Catalog.Text.Digits

/-!
# Environment variables

Settings that environment variables change. Each of these variables has a name of its own after a
common front; all other variables are left alone.

## Main definitions

* `Settings.variableNames` — the names of these variables.
* `Settings.override` — the settings with the value of one variable.
* `Settings.applyVariables` — the settings with the values of many, up to the first unusable one.
-/

namespace Catalog.Settings

open Text

/-- What the names of all variables start with. -/
def variablePrefix : String := "MCP_REGISTRY_"

/-- The names of all variables. -/
def variableNames : List String :=
  ["ENABLE_REGISTRY_VALIDATION", "FETCH_TIMEOUT_SECS", "NPM_BASE_URL", "PYPI_BASE_URL",
    "NUGET_BASE_URL", "MCPB_ALLOWED_HOSTS", "OCI_POLICY", "OCI_ALLOWED_HOSTS",
    "PLAIN_HTTP_HOSTS", "STRICT_URL_VARIABLES", "MIGRATION_CHUNK_SIZE"].map (variablePrefix ++ ·)

/-! ### Values -/

/-- A truth value, in one of several spellings. -/
def readTruth (key value : String) : Except ConfigFault Bool :=
  let word := asciiLowercase (trim value)
  if ["1", "true", "yes", "on"].contains word then .ok true
  else if ["0", "false", "no", "off"].contains word then .ok false
  else .error (.notBoolean key value)

/-- A number. -/
def readNumber (key value : String) : Except ConfigFault Nat :=
  match word64? (trim value).toList with
  | some n => .ok n
  | none => .error (.notNumber key value)

/-- The name of a policy. -/
def readPolicy (key value : String) : Except ConfigFault PolicyMode :=
  match PolicyMode.ofName? (asciiLowercase (trim value)) with
  | some p => .ok p
  | none => .error (.notPolicy key value)

/-- The texts between commas, without blanks around them and without empty ones. -/
def readList (value : String) : List String :=
  ((fields ',' value.toList).map fun cs => trim (String.ofList cs)).filter fun s => !s.isEmpty

/-! ### Variables -/

/-- The settings with the value of a variable, whose name after the common front is `name`. -/
def override (s : Settings) (key name value : String) : Except ConfigFault Settings :=
  if name = "ENABLE_REGISTRY_VALIDATION" then
    (readTruth key value).map fun b => { s with lookupEnabled := b }
  else if name = "FETCH_TIMEOUT_SECS" then
    (readNumber key value).map fun n => { s with timeoutSeconds := n }
  else if name = "NPM_BASE_URL" then .ok { s with npmBaseUrl := value }
  else if name = "PYPI_BASE_URL" then .ok { s with pypiBaseUrl := value }
  else if name = "NUGET_BASE_URL" then .ok { s with nugetBaseUrl := value }
  else if name = "MCPB_ALLOWED_HOSTS" then .ok { s with bundleHosts := readList value }
  else if name = "OCI_POLICY" then
    (readPolicy key value).map fun p => { s with policy := p }
  else if name = "OCI_ALLOWED_HOSTS" then .ok { s with imageHosts := readList value }
  else if name = "PLAIN_HTTP_HOSTS" then .ok { s with plainHosts := readList value }
  else if name = "STRICT_URL_VARIABLES" then
    (readTruth key value).map fun b => { s with strictVariables := b }
  else if name = "MIGRATION_CHUNK_SIZE" then
    (readNumber key value).map fun n => { s with chunkSize := n }
  else .ok s

/-- The settings with the value of an environment variable. -/
def applyVariable (s : Settings) (key value : String) : Except ConfigFault Settings :=
  match afterFront? variablePrefix.toList key.toList with
  | some name => s.override key (String.ofList name) value
  | none => .ok s

/-- The settings with the values of environment variables, up to the first unusable one. -/
def applyVariables (s : Settings) : List (String × String) → Settings × Except ConfigFault Unit
  | [] => (s, .ok ())
  | (key, value) :: vs =>
    match s.applyVariable key value with
    | .ok t => t.applyVariables vs
    | .error fault => (s, .error fault)

end Catalog.Settings
