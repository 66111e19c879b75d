import Catalog.Json.Layout
import Catalog.Table

/-!
# Transports

How a client talks to a server: over standard input and output, or over the network at a URL that
may hold placeholders, which the declared variables fill.

## Main definitions

* `Input` — a value that the user supplies.
* `Transport` — a way to reach a server.
* `Input.ofJson`, `Input.toJson`, `Transport.ofJson`, `Transport.toJson` — their documents.
-/

namespace Catalog

/-! ### Optional members -/

namespace Json.Members

/-- A member that is left out when there is no value. -/
def given {α : Type} (key : String) (encode : α → Json) : Option α → Members
  | none => []
  | some a => [(key, encode a)]

/-- The value of a member that is neither absent nor `null`. -/
def given? (ms : Members) (key : String) : Option Json := (ms.value? key).filter (!·.isNull)

/-- The truth value of a member. -/
def bool? (ms : Members) (key : String) : Option Bool :=
  match ms.value? key with
  | some (.bool b) => some b
  | _ => none

/-- The items of an array member. -/
def array? (ms : Members) (key : String) : Option (List Json) :=
  match ms.value? key with
  | some (.arr xs) => some xs
  | _ => none

/-- The members of an object member. -/
def object? (ms : Members) (key : String) : Option Members :=
  match ms.value? key with
  | some (.obj inner) => some inner
  | _ => none

end Json.Members

open Json (Layout Members)

/-! ### Inputs -/

/-- A value that the user supplies, such as a variable of a URL. -/
structure Input where
  description : Option String
  isRequired : Option Bool
  isSecret : Option Bool
  default : Option String
  format : Option String
  choices : Option (List String)
  /-- Members without a meaning of their own, in order. -/
  extra : Members
deriving DecidableEq, Repr, Inhabited

namespace Input

/-- The known members. -/
def knownFields : List Layout.Field :=
  [.defaulted "description" (.optional .string),
   .defaulted "isRequired" (.optional .bool),
   .defaulted "isSecret" (.optional .bool),
   .defaulted "default" (.optional .string),
   .defaulted "format" (.optional .string),
   .defaulted "choices" (.optional (.list .string))]

/-- The layout of an input. -/
def layout : Layout := .openRecord "Input" knownFields

/-- The input that the members of a document with the layout describe. -/
def ofMembers (ms : Members) : Input where
  description := ms.string? "description"
  isRequired := ms.bool? "isRequired"
  isSecret := ms.bool? "isSecret"
  default := ms.string? "default"
  format := ms.string? "format"
  choices := (ms.array? "choices").map fun xs => xs.filterMap Json.string?
  extra := ms.others (knownFields.map (·.name))

/-- The members of the document of an input. -/
def toMembers (i : Input) : Members :=
  Members.given "description" .str i.description
    ++ Members.given "isRequired" .bool i.isRequired
    ++ Members.given "isSecret" .bool i.isSecret
    ++ Members.given "default" .str i.default
    ++ Members.given "format" .str i.format
    ++ Members.given "choices" Json.ofStrings i.choices
    ++ i.extra

/-- The document of an input. -/
def toJson (i : Input) : Json := .obj i.toMembers

/-- The input that a document describes. -/
def ofJson (v : Json) : Except Json.Defect Input :=
  (layout.decode v).map fun v => ofMembers v.members

/-- An input with a description only. -/
def described (text : String) : Input :=
  ⟨some text, none, none, none, none, none, []⟩

end Input

/-! ### Transports -/

/-- The kinds of transport. -/
inductive TransportKind where
  | stdio
  | streamableHttp
  | sse
deriving DecidableEq, Repr, Inhabited

namespace TransportKind

/-- The name in a document. -/
def name : TransportKind → String
  | stdio => "stdio"
  | streamableHttp => "streamable-http"
  | sse => "sse"

/-- All names, in order. -/
def names : List String := ["stdio", "streamable-http", "sse"]

/-- The kind with a name. -/
def ofName? (s : String) : Option TransportKind :=
  if s = "stdio" then some stdio
  else if s = "streamable-http" then some streamableHttp
  else if s = "sse" then some sse
  else none

/-- The kind that a document names, be it a string or an object with the name as its only key. -/
def ofJson? : Json → Option TransportKind
  | .str s => ofName? s
  | .obj [(s, _)] => ofName? s
  | _ => none

/-- Whether a transport of this kind is reached at a URL. -/
def isNetwork : TransportKind → Bool
  | stdio => false
  | _ => true

end TransportKind

/-- A way to reach a server. -/
structure Transport where
  kind : TransportKind
  url : Option String
  headers : Option (List Json)
  /-- The inputs that fill the placeholders of the URL. -/
  inputs : Option (Table Input)
  /-- Members without a meaning of their own, in order. -/
  extra : Members
deriving DecidableEq, Repr, Inhabited

namespace Transport

/-- The known members. -/
def knownFields : List Layout.Field :=
  [.required "type" (.choice TransportKind.names),
   .defaulted "url" (.optional .string),
   .defaulted "headers" (.optional (.list .any)),
   .defaulted "variables" (.optional (.table Input.layout))]

/-- The layout of a transport. -/
def layout : Layout := .openRecord "Transport" knownFields

/-- The transport that the members of a document with the layout describe. -/
def ofMembers (ms : Members) : Transport where
  kind := ((ms.value? "type").bind TransportKind.ofJson?).getD .stdio
  url := ms.string? "url"
  headers := ms.array? "headers"
  inputs := (ms.object? "variables").map fun vs =>
    Table.ofList (vs.map fun (k, v) => (k, Input.ofMembers v.members))
  extra := ms.others (knownFields.map (·.name))

/-- The members of the document of a transport. -/
def toMembers (t : Transport) : Members :=
  [("type", .str t.kind.name)]
    ++ Members.given "url" .str t.url
    ++ Members.given "headers" .arr t.headers
    ++ Members.given "variables" (fun vs => .obj (vs.map fun (k, i) => (k, i.toJson))) t.inputs
    ++ t.extra

/-- The document of a transport. -/
def toJson (t : Transport) : Json := .obj t.toMembers

/-- The transport that a document describes. -/
def ofJson (v : Json) : Except Json.Defect Transport :=
  (layout.decode v).map fun v => ofMembers v.members

/-- The transport that a text describes. -/
def ofText (text : String) : Except Json.Defect Transport :=
  (layout.decodeText text).map fun v => ofMembers v.members

/-- A transport of a kind, at a URL or without one. -/
def ofKind (kind : TransportKind) (url : Option String) : Transport :=
  ⟨kind, url, none, none, []⟩

/-- The transport over standard input and output, which a package without one has. -/
def stdio : Transport := ofKind .stdio none

/-- The transport with one more variable. -/
def withVariable (t : Transport) (name : String) (input : Input) : Transport :=
  { t with inputs := some (Table.insert (t.inputs.getD []) name input) }

/-- The names of the declared variables, in order. -/
def variableNames (t : Transport) : List String :=
  Table.keys (t.inputs.getD [])

end Transport

end Catalog
