import Catalog.Record.Basic

/-!
# Records in memory

A store that holds its records in a table sorted by id and counts the writes that were committed.

## Main definitions

* `MemoryStore` — the contents of the store.
* `MemoryStore.store` — its operations.
-/

namespace Catalog

/-- Records in a table sorted by id. -/
structure MemoryStore where
  documents : Table Json
  /-- The number of packages written by committed transactions. -/
  writes : Nat
deriving DecidableEq, Repr, Inhabited

namespace MemoryStore

/-- What a transaction wrote, in order. -/
abbrev Pending := List (String × Json)

/-- A store with records; of two records with one id the later one counts. -/
def ofRecords (records : List Record) : MemoryStore :=
  ⟨Table.ofList (records.map fun r => (r.id, r.document)), 0⟩

/-- Inserts or replaces a record. -/
def insert (s : MemoryStore) (r : Record) : MemoryStore :=
  { s with documents := s.documents.insert r.id r.document }

/-- The document of a record. -/
def get? (s : MemoryStore) (id : String) : Option Json := s.documents.get? id

/-- All records, in the order of their ids. -/
def records (s : MemoryStore) : List Record := s.documents.map fun (id, d) => ⟨id, d⟩

/-- Applies writes one after another, up to the first that cannot be applied. -/
def applyWrites (documents : Table Json) : Pending → Table Json × Except Error Unit
  | [] => (documents, .ok ())
  | (id, packages) :: rest =>
    match documents.get? id with
    | none => (documents, .error (.store (.noRecord id)))
    | some (.obj ms) =>
      applyWrites (documents.insert id (.obj (Json.Members.set ms "packages" packages))) rest
    | some _ => (documents, .error (.store (.notObject id)))

/-- Ends a transaction. -/
def commit (s : MemoryStore) (pending : Pending) : MemoryStore × Except Error Unit :=
  match applyWrites s.documents pending with
  | (documents, .ok ()) => (⟨documents, s.writes + pending.length⟩, .ok ())
  | (documents, .error e) => (⟨documents, s.writes⟩, .error e)

/-- The operations of the store. A write to an unknown record is refused at once. -/
def store : RecordStore MemoryStore Pending where
  select s cursor limit := .ok (window s.records cursor limit)
  start _ := .ok []
  write s pending id packages :=
    match s.get? id with
    | none => .error (.store (.noRecord id))
    | some _ => .ok (pending ++ [(id, packages)])
  commit := commit
  rollback _ _ := .ok ()

end MemoryStore

end Catalog
