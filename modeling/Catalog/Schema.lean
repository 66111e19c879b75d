import Catalog.Json.Reader
import Catalog.Text.Cut

/-!
# The schema of server documents

The JSON schema that server documents follow, as it is handed out.

## Main definitions

* `Schema.text`, `Schema.document` — the schema.
* `Json.pointer?` — the part of a document that a pointer leads to.
-/

namespace Catalog

open Text

/-! ### Pointers -/

namespace Json

/-- A part of a pointer as a key. -/
def pointerKey : List Char → List Char
  | [] => []
  | '~' :: '1' :: cs => '/' :: pointerKey cs
  | '~' :: '0' :: cs => '~' :: pointerKey cs
  | c :: cs => c :: pointerKey cs

/-- A key as a position in an array, without a sign and without zeros in front. -/
def pointerIndex? (key : List Char) : Option Nat :=
  match key with
  | [] => none
  | '0' :: _ :: _ => none
  | _ => if key.all Char.isDigit then (String.ofList key).toNat? else none

/-- The part of a document that keys lead to. -/
def descend? : (keys : List (List Char)) → Json → Option Json
  | [], v => some v
  | key :: keys, .obj ms => do descend? keys (← Members.value? ms (String.ofList key))
  | key :: keys, .arr vs => do descend? keys (← vs[← pointerIndex? key]?)
  | _ :: _, _ => none

/-- The part of a document that a pointer leads to. An empty pointer leads to the whole document,
every other one starts with a slash. -/
def pointer? (v : Json) (pointer : String) : Option Json :=
  match pointer.toList with
  | [] => some v
  | '/' :: cs => descend? ((fields '/' cs).map pointerKey) v
  | _ => none

end Json

/-! ### The schema -/

namespace Schema

/-- The lines of the schema. -/
def lines : List String :=
  ["\x7b",
   "  \"$schema\": \"http://json-schema.org/draft-07/schema#\",",
   "  \"title\": \"MCP Server Detail\",",
   "  \"type\": \"object\",",
   "  \"required\": [\"name\", \"description\", \"version\"],",
   "  \"properties\": \x7b",
   "    \"$schema\": \x7b",
   "      \"type\": \"string\",",
   "      \"format\": \"uri\"",
   "    \x7d,",
   "    \"name\": \x7b",
   "      \"type\": \"string\",",
   "      \"minLength\": 3,",
   "      \"maxLength\": 200,",
   "      \"pattern\": \"^[a-zA-Z0-9.-]+/[a-zA-Z0-9._-]+$\",",
   "      \"description\": \"Server name in reverse-DNS format, e.g. io.github.owner/server.\"",
   "    \x7d,",
   "    \"description\": \x7b",
   "      \"type\": \"string\",",
   "      \"minLength\": 1,",
   "      \"maxLength\": 100",
   "    \x7d,",
   "    \"version\": \x7b",
   "      \"type\": \"string\",",
   "      \"maxLength\": 255",
   "    \x7d,",
   "    \"repository\": \x7b",
   "      \"$ref\": \"#/definitions/Repository\"",
   "    \x7d,",
   "    \"websiteUrl\": \x7b",
   "      \"type\": \"string\",",
   "      \"format\": \"uri\"",
   "    \x7d,",
   "    \"packages\": \x7b",
   "      \"type\": \"array\",",
   "      \"items\": \x7b",
   "        \"$ref\": \"#/definitions/Package\"",
   "      \x7d",
   "    \x7d,",
   "    \"remotes\": \x7b",
   "      \"type\": \"array\",",
   "      \"items\": \x7b",
   "        \"anyOf\": [",
   "          \x7b \"$ref\": \"#/definitions/StreamableHttpTransport\" \x7d,",
   "          \x7b \"$ref\": \"#/definitions/SseTransport\" \x7d",
   "        ]",
   "      \x7d",
   "    \x7d",
   "  \x7d,",
   "  \"definitions\": \x7b",
   "    \"Repository\": \x7b",
   "      \"type\": \"object\",",
   "      \"required\": [\"url\", \"source\"],",
   "      \"properties\": \x7b",
   "        \"url\": \x7b \"type\": \"string\", \"format\": \"uri\" \x7d,",
   "        \"source\": \x7b \"type\": \"string\" \x7d,",
   "        \"id\": \x7b \"type\": \"string\" \x7d,",
   "        \"subfolder\": \x7b \"type\": \"string\" \x7d",
   "      \x7d",
   "    \x7d,",
   "    \"Package\": \x7b",
   "      \"type\": \"object\",",
   "      \"required\": [\"registryType\", \"identifier\", \"transport\"],",
   "      \"properties\": \x7b",
   "        \"registryType\": \x7b",
   "          \"type\": \"string\",",
   "          \"description\": \"Registry type: npm, pypi, oci, nuget or mcpb.\",",
   "          \"examples\": [\"npm\", \"pypi\", \"oci\", \"nuget\", \"mcpb\"]",
   "        \x7d,",
   "        \"registryBaseUrl\": \x7b",
   "          \"type\": \"string\",",
   "          \"format\": \"uri\",",
   "          \"description\": \"Base URL of the package registry. Not allowed for oci and mcpb packages.\"",
   "        \x7d,",
   "        \"identifier\": \x7b",
   "          \"type\": \"string\",",
   "          \"description\": \"Package name, canonical OCI reference (registry/namespace/image:tag) or MCPB download URL.\"",
   "        \x7d,",
   "        \"version\": \x7b",
   "          \"type\": \"string\",",
   "          \"minLength\": 1,",
   "          \"description\": \"Package version. Not allowed for oci and mcpb packages.\"",
   "        \x7d,",
   "        \"fileSha256\": \x7b",
   "          \"type\": \"string\",",
   "          \"pattern\": \"^[a-f0-9]\x7b64\x7d$\",",
   "          \"description\": \"SHA-256 of the package file. Only allowed for mcpb packages.\"",
   "        \x7d,",
   "        \"runtimeHint\": \x7b",
   "          \"type\": \"string\"",
   "        \x7d,",
   "        \"transport\": \x7b",
   "          \"anyOf\": [",
   "            \x7b \"$ref\": \"#/definitions/StdioTransport\" \x7d,",
   "            \x7b \"$ref\": \"#/definitions/StreamableHttpTransport\" \x7d,",
   "            \x7b \"$ref\": \"#/definitions/SseTransport\" \x7d",
   "          ]",
   "        \x7d,",
   "        \"runtimeArguments\": \x7b",
   "          \"type\": \"array\",",
   "          \"items\": \x7b \"type\": \"object\" \x7d",
   "        \x7d,",
   "        \"packageArguments\": \x7b",
   "          \"type\": \"array\",",
   "          \"items\": \x7b \"type\": \"object\" \x7d",
   "        \x7d,",
   "        \"environmentVariables\": \x7b",
   "          \"type\": \"array\",",
   "          \"items\": \x7b \"type\": \"object\" \x7d",
   "        \x7d",
   "      \x7d",
   "    \x7d,",
   "    \"Input\": \x7b",
   "      \"type\": \"object\",",
   "      \"properties\": \x7b",
   "        \"description\": \x7b \"type\": \"string\" \x7d,",
   "        \"isRequired\": \x7b \"type\": \"boolean\", \"default\": false \x7d,",
   "        \"isSecret\": \x7b \"type\": \"boolean\", \"default\": false \x7d,",
   "        \"default\": \x7b \"type\": \"string\" \x7d,",
   "        \"format\": \x7b",
   "          \"type\": \"string\",",
   "          \"enum\": [\"string\", \"number\", \"boolean\", \"filepath\"]",
   "        \x7d,",
   "        \"choices\": \x7b",
   "          \"type\": \"array\",",
   "          \"items\": \x7b \"type\": \"string\" \x7d",
   "        \x7d",
   "      \x7d",
   "    \x7d,",
   "    \"StdioTransport\": \x7b",
   "      \"type\": \"object\",",
   "      \"required\": [\"type\"],",
   "      \"properties\": \x7b",
   "        \"type\": \x7b \"type\": \"string\", \"enum\": [\"stdio\"] \x7d",
   "      \x7d",
   "    \x7d,",
   "    \"StreamableHttpTransport\": \x7b",
   "      \"type\": \"object\",",
   "      \"required\": [\"type\", \"url\"],",
   "      \"properties\": \x7b",
   "        \"type\": \x7b \"type\": \"string\", \"enum\": [\"streamable-http\"] \x7d,",
   "        \"url\": \x7b",
   "          \"type\": \"string\",",
   "          \"pattern\": \"^https?://[^\\\\s]+$\",",
   "          \"description\": \"URL template. May contain \x7bname\x7d placeholders declared in variables.\"",
   "        \x7d,",
   "        \"headers\": \x7b",
   "          \"type\": \"array\",",
   "          \"items\": \x7b \"type\": \"object\" \x7d",
   "        \x7d,",
   "        \"variables\": \x7b",
   "          \"type\": \"object\",",
   "          \"additionalProperties\": \x7b \"$ref\": \"#/definitions/Input\" \x7d",
   "        \x7d",
   "      \x7d",
   "    \x7d,",
   "    \"SseTransport\": \x7b",
   "      \"type\": \"object\",",
   "      \"required\": [\"type\", \"url\"],",
   "      \"properties\": \x7b",
   "        \"type\": \x7b \"type\": \"string\", \"enum\": [\"sse\"] \x7d,",
   "        \"url\": \x7b",
   "          \"type\": \"string\",",
   "          \"pattern\": \"^https?://[^\\\\s]+$\",",
   "          \"description\": \"URL template. May contain \x7bname\x7d placeholders declared in variables.\"",
   "        \x7d,",
   "        \"headers\": \x7b",
   "          \"type\": \"array\",",
   "          \"items\": \x7b \"type\": \"object\" \x7d",
   "        \x7d,",
   "        \"variables\": \x7b",
   "          \"type\": \"object\",",
   "          \"additionalProperties\": \x7b \"$ref\": \"#/definitions/Input\" \x7d",
   "        \x7d",
   "      \x7d",
   "    \x7d",
   "  \x7d",
   "\x7d"]

/-- The text of the schema. -/
def text : String := String.join (lines.map (· ++ "\n"))

/-- The schema as a document. -/
def document : Json := (Json.parse text).toOption.getD .null

/-- The pattern of the URLs of a kind of transport. -/
def urlPattern? (definition : String) : Option String :=
  (document.pointer? ("/definitions/" ++ definition ++ "/properties/url/pattern")).bind Json.string?

/-- The names of the members of a package. -/
def packageMembers : List String :=
  match document.pointer? "/definitions/Package/properties" with
  | some (.obj ms) => ms.map Prod.fst
  | _ => []

end Schema

end Catalog
