import Catalog.Settings.Basic
import Catalog.Toml.Reader

/-!
# Configuration files

The settings of a configuration file. A file sets some values; all others keep the ones that hold
when nothing is configured. A file with a key that is not known, or with a value of another kind
than its key asks for, is refused as a whole.

A group of settings is a table, or an array of its values in their order.

## Main definitions

* `Settings.ofFile` — the settings of a configuration file.
-/

namespace Catalog.Settings

/-! ### Values -/

/-- A truth value. -/
def truth? : Toml → Option Bool
  | .bool b => some b
  | _ => none

/-- A number that is not negative. -/
def count? : Toml → Option Nat
  | .int n => if 0 ≤ n then some n.toNat else none
  | _ => none

/-- A text. -/
def text? : Toml → Option String
  | .str s => some s
  | _ => none

/-- A list of texts. -/
def texts? : Toml → Option (List String)
  | .array vs => vs.mapM text?
  | _ => none

/-- A policy: its name, or a table with the name as its only key and nothing below it. -/
def policy? : Toml → Option PolicyMode
  | .str s => PolicyMode.ofName? s
  | .table [(s, .table [])] | .table [(s, .array [])] => PolicyMode.ofName? s
  | _ => none

/-! ### Groups -/

/-- The entries of a group with the given keys. -/
def group? (keys : List String) : Toml → Option (List (String × Toml))
  | .table es => if es.all fun (k, _) => keys.contains k then some es else none
  | .array vs => some (keys.zip vs)
  | _ => none

/-- The value at a key, or the one given when the key is absent. -/
def valueOr {α : Type} (default : α) (read : Toml → Option α) (key : String)
    (es : List (String × Toml)) : Option α :=
  match es.lookup key with
  | none => some default
  | some v => read v

/-- The settings with those of one group. -/
def readGroup (es : List (String × Toml)) (s : Settings) (name : String) (keys : List String)
    (read : List (String × Toml) → Settings → Option Settings) : Option Settings :=
  match es.lookup name with
  | none => some s
  | some v => do read (← group? keys v) s

/-- The settings about looking packages up. -/
def readValidation (es : List (String × Toml)) (s : Settings) : Option Settings := do
  return { s with
    lookupEnabled := ← valueOr s.lookupEnabled truth? "enable_registry_validation" es
    timeoutSeconds := ← valueOr s.timeoutSeconds count? "fetch_timeout_secs" es
    npmBaseUrl := ← valueOr s.npmBaseUrl text? "npm_base_url" es
    pypiBaseUrl := ← valueOr s.pypiBaseUrl text? "pypi_base_url" es
    nugetBaseUrl := ← valueOr s.nugetBaseUrl text? "nuget_base_url" es
    bundleHosts := ← valueOr s.bundleHosts texts? "mcpb_allowed_hosts" es }

/-- The settings about images. -/
def readImages (es : List (String × Toml)) (s : Settings) : Option Settings := do
  return { s with
    policy := ← valueOr s.policy policy? "policy" es
    imageHosts := ← valueOr s.imageHosts texts? "allowed_hosts" es
    plainHosts := ← valueOr s.plainHosts texts? "plain_http_hosts" es }

/-- The settings about transports. -/
def readTransport (es : List (String × Toml)) (s : Settings) : Option Settings := do
  return { s with
    strictVariables := ← valueOr s.strictVariables truth? "strict_url_variables" es }

/-- The settings about migrations. -/
def readMigration (es : List (String × Toml)) (s : Settings) : Option Settings := do
  return { s with chunkSize := ← valueOr s.chunkSize count? "chunk_size" es }

/-- The settings of a document. -/
def ofToml (v : Toml) : Option Settings := do
  let es ← group? ["validation", "oci", "transport", "migration"] v
  let s ← readGroup es standard "validation"
    ["enable_registry_validation", "fetch_timeout_secs", "npm_base_url", "pypi_base_url",
      "nuget_base_url", "mcpb_allowed_hosts"] readValidation
  let s ← readGroup es s "oci" ["policy", "allowed_hosts", "plain_http_hosts"] readImages
  let s ← readGroup es s "transport" ["strict_url_variables"] readTransport
  readGroup es s "migration" ["chunk_size"] readMigration

/-- The settings of a configuration file. -/
def ofFile (text : String) : Except Error Settings :=
  match (Toml.parse text).bind fun es => ofToml (.table es) with
  | some s => .ok s
  | none => .error .configText

end Catalog.Settings
