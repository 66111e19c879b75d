import Catalog.Package.Basic

/-!
# Server documents

One published version of a server, with its packages and its hosted endpoints.

## Main definitions

* `Server` — a server version.
* `Server.ofText`, `Server.toJson` — its document.
-/

namespace Catalog

open Json (Layout Members)

/-- One published version of a server. Its name is the owner of all its packages. -/
structure Server where
  name : String
  description : Option String
  version : Option String
  packages : Option (List Package)
  remotes : Option (List Transport)
  /-- Members without a meaning of their own, in order. -/
  extra : Members
deriving DecidableEq, Repr, Inhabited

namespace Server

/-- The known members. -/
def knownFields : List Layout.Field :=
  [.required "name" .string,
   .defaulted "description" (.optional .string),
   .defaulted "version" (.optional .string),
   .defaulted "packages" (.optional (.list Package.layout)),
   .defaulted "remotes" (.optional (.list Transport.layout))]

/-- The layout of a server document. -/
def layout : Layout := .openRecord "ServerRecord" knownFields

/-- The server that the members of a document with the layout describe. -/
def ofMembers (ms : Members) : Server where
  name := (ms.string? "name").getD ""
  description := ms.string? "description"
  version := ms.string? "version"
  packages := (ms.array? "packages").map fun xs => xs.map fun v => Package.ofMembers v.members
  remotes := (ms.array? "remotes").map fun xs => xs.map fun v => Transport.ofMembers v.members
  extra := ms.others (knownFields.map (·.name))

/-- The server that a document describes. -/
def ofJson (v : Json) : Except Json.Defect Server :=
  (layout.decode v).map fun v => ofMembers v.members

/-- The server that a text describes. -/
def ofText (text : String) : Except Json.Defect Server :=
  (layout.decodeText text).map fun v => ofMembers v.members

/-- The members of the document of a server. -/
def toMembers (s : Server) : Members :=
  [("name", .str s.name)]
    ++ Members.given "description" .str s.description
    ++ Members.given "version" .str s.version
    ++ Members.given "packages" (fun ps => .arr (ps.map Package.toJson)) s.packages
    ++ Members.given "remotes" (fun ts => .arr (ts.map Transport.toJson)) s.remotes
    ++ s.extra

/-- The document of a server. -/
def toJson (s : Server) : Json := .obj s.toMembers

/-- The packages, none if the document declares none. -/
def packageList (s : Server) : List Package := s.packages.getD []

/-- The hosted endpoints, none if the document declares none. -/
def remoteList (s : Server) : List Transport := s.remotes.getD []

end Server

end Catalog
