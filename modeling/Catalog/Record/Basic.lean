import Catalog.Error
import Catalog.Package.Transport

/-!
# Stored records

One stored server version: an id and a document. Records are read in the order of their ids, from a
cursor on and up to a limit, and only those with packages.

## Main definitions

* `Record` — a stored server version.
* `window` — the records with packages after a cursor.
* `RecordStore` — the operations of a store and its transactions.
-/

namespace Catalog

open Json (Layout Members)

/-- One stored server version. -/
structure Record where
  id : String
  document : Json
deriving DecidableEq, Repr, Inhabited

namespace Record

/-- The known members. -/
def knownFields : List Layout.Field := [.required "id" .string, .required "document" .any]

/-- The layout of a stored record. -/
def layout : Layout := .closedRecord "StoredRecord" knownFields

/-- The record that a document with the layout describes. -/
def ofDocument (v : Json) : Record :=
  let ms := Layout.recordMembers knownFields v
  { id := (ms.string? "id").getD "", document := (ms.value? "document").getD .null }

/-- The document of a record. -/
def toJson (r : Record) : Json := .obj [("id", .str r.id), ("document", r.document)]

/-- The packages of a record, if it has any; `null` counts as none. -/
def packages? (r : Record) : Option Json := r.document.members.given? "packages"

end Record

/-- Whether an id comes after a cursor. -/
def isAfter (cursor : Option String) (id : String) : Bool :=
  match cursor with
  | none => true
  | some c => c < id

/-- The records with packages after a cursor, at most as many as the limit says. -/
def window (records : List Record) (cursor : Option String) (limit : Option Nat) : List Record :=
  let all := records.filter fun r => r.packages?.isSome && isAfter cursor r.id
  match limit with
  | none => all
  | some n => all.take n

/-- The operations of a record store. The contents of the store are of type `σ`, its open
transactions of type `τ`; what a transaction writes shows in the contents only after a commit. -/
structure RecordStore (σ τ : Type) where
  /-- The records with packages after a cursor, in the order of their ids. -/
  select : σ → (cursor : Option String) → (limit : Option Nat) → Except Error (List Record)
  /-- Opens a transaction. -/
  start : σ → Except Error τ
  /-- Replaces the packages of a record in a transaction. -/
  write : σ → τ → (id : String) → (packages : Json) → Except Error τ
  /-- Ends a transaction with what it wrote. -/
  commit : σ → τ → σ × Except Error Unit
  /-- Ends a transaction without what it wrote. -/
  rollback : σ → τ → Except Error Unit

/-- What a store refuses to do. -/
structure Refusals where
  /-- The records whose packages cannot be written. -/
  ids : List String
  start : Bool
  commit : Bool
  rollback : Bool
deriving DecidableEq, Repr, Inhabited

namespace Refusals

/-- The fault of a refused operation. -/
def fault (text : String) : Error := .store (.refused text)

/-- The store that refuses some operations and passes on all others. -/
def apply {σ τ : Type} (r : Refusals) (store : RecordStore σ τ) : RecordStore σ τ where
  select := store.select
  start s := if r.start then .error (fault "begin refused") else store.start s
  write s tx id packages :=
    if r.ids.contains id then .error (fault "disk full") else store.write s tx id packages
  commit s tx :=
    if r.commit then (s, .error (fault "commit refused")) else store.commit s tx
  rollback s tx :=
    if r.rollback then .error (fault "rollback refused") else store.rollback s tx

end Refusals

end Catalog
