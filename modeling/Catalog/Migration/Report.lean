import Catalog.Migration.Diff
import Catalog.Package.Shape
import Catalog.Record.Basic

/-!
# Migration reports

What a migration saw and did: how many records it read, changed and wrote, how many packages of each
registry type there were and how many of them were legacy before and after, the changes, and the
chunks that failed.

## Main definitions

* `MigrationMode`, `MigrationStrategy` — how a migration works.
* `MigrationReport` — what it saw and did.
* `census` — the registry types and legacy flags of a `packages` array.
-/

namespace Catalog

/-- Whether a migration writes what it rewrote. -/
inductive MigrationMode where
  | dryRun
  | live
deriving DecidableEq, Repr, Inhabited

/-- The name of a mode. -/
def MigrationMode.name : MigrationMode → String
  | dryRun => "dry-run"
  | live => "live"

/-- How writes are grouped into transactions. -/
inductive MigrationStrategy where
  /-- One transaction for all records. -/
  | atomic
  /-- One transaction for every so many records. -/
  | chunked (size : Nat)
deriving DecidableEq, Repr, Inhabited

namespace MigrationStrategy

/-- The name of a strategy. -/
def text : MigrationStrategy → String
  | atomic => "atomic"
  | chunked size => "chunked (" ++ toString size ++ " per chunk)"

/-- The document of a strategy. -/
def toJson : MigrationStrategy → Json
  | atomic => .obj [("kind", .str "atomic")]
  | chunked size => .obj [("kind", .str "chunked"), ("size", Json.ofNat size)]

end MigrationStrategy

/-- The packages of one registry type. -/
structure TypeCounts where
  packages : Nat
  legacyBefore : Nat
  legacyAfter : Nat
deriving DecidableEq, Repr

instance : Inhabited TypeCounts := ⟨⟨0, 0, 0⟩⟩

/-- The document of counts. -/
def TypeCounts.toJson (c : TypeCounts) : Json :=
  .obj [("packages", Json.ofNat c.packages), ("legacy_before", Json.ofNat c.legacyBefore),
    ("legacy_after", Json.ofNat c.legacyAfter)]

/-- A chunk that was rolled back. -/
structure ChunkFailure where
  /-- The number of the chunk in its run, from zero. -/
  chunk : Nat
  firstId : String
  lastId : String
  error : Error
deriving DecidableEq, Repr, Inhabited

/-- The document of a failure. -/
def ChunkFailure.toJson (f : ChunkFailure) : Json :=
  .obj [("chunk", Json.ofNat f.chunk), ("first_id", .str f.firstId), ("last_id", .str f.lastId),
    ("error", .str f.error.message)]

/-- What a migration saw and did. -/
structure MigrationReport where
  mode : MigrationMode
  strategy : MigrationStrategy
  /-- The records with packages that were read. -/
  scanned : Nat
  /-- The records whose canonical packages differ from the stored ones. -/
  changed : Nat
  /-- The records whose canonical packages were committed. -/
  written : Nat
  /-- The records with a legacy package before the run. -/
  legacyBefore : Nat
  /-- The records with a legacy package after the run. -/
  legacyAfter : Nat
  /-- The packages by registry type. -/
  types : Table TypeCounts
  diffs : List RecordDiff
  failures : List ChunkFailure
  /-- The id of the last record that was dealt with. -/
  lastCursor : Option String
deriving DecidableEq, Repr, Inhabited

/-- The registry type and the legacy flag of each element of a `packages` array. -/
def census (packages : Json) : List (String × Bool) :=
  packages.items.map fun item =>
    ((item.members.string? "registryType").getD "unknown", isLegacyDocument item)

namespace MigrationReport

/-- The report before anything was done. -/
def empty (mode : MigrationMode) (strategy : MigrationStrategy) (cursor : Option String) :
    MigrationReport :=
  ⟨mode, strategy, 0, 0, 0, 0, 0, [], [], [], cursor⟩

/-- Whether no chunk failed. -/
def isSuccess (r : MigrationReport) : Bool := r.failures.isEmpty

/-- One if an element of a census is legacy, else zero. -/
def legacyRecord (elements : List (String × Bool)) : Nat :=
  if elements.any (·.2) then 1 else 0

/-- Counts an element before the run. -/
def countBefore (types : Table TypeCounts) (element : String × Bool) : Table TypeCounts :=
  types.adjust element.1 fun c =>
    { c with packages := c.packages + 1, legacyBefore := c.legacyBefore + element.2.toNat }

/-- Counts an element after the run. -/
def countAfter (types : Table TypeCounts) (element : String × Bool) : Table TypeCounts :=
  if element.2 then
    types.adjust element.1 fun c => { c with legacyAfter := c.legacyAfter + 1 }
  else types

/-- Counts the stored packages of a record. -/
def tallyBefore (r : MigrationReport) (packages : Json) : MigrationReport :=
  { r with
    legacyBefore := r.legacyBefore + legacyRecord (census packages)
    types := (census packages).foldl countBefore r.types }

/-- Counts the packages of a record as they are after the run. -/
def tallyAfter (r : MigrationReport) (packages : Json) : MigrationReport :=
  { r with
    legacyAfter := r.legacyAfter + legacyRecord (census packages)
    types := (census packages).foldl countAfter r.types }

/-- Forgets the counts after the run. -/
def resetAfter (r : MigrationReport) : MigrationReport :=
  { r with
    legacyAfter := 0
    types := r.types.map fun (t, c) => (t, { c with legacyAfter := 0 }) }

/-- Counts anew, from what a store holds, how many packages are legacy after the run. -/
def recount (r : MigrationReport) (records : List Record) : MigrationReport :=
  records.foldl (fun r record =>
    match record.packages? with
    | some packages => r.tallyAfter packages
    | none => r) r.resetAfter

/-- The members of the document of a report, without the times. -/
def toMembers (r : MigrationReport) : Json.Members :=
  [("mode", .str r.mode.name), ("strategy", r.strategy.toJson),
   ("records_scanned", Json.ofNat r.scanned), ("records_changed", Json.ofNat r.changed),
   ("records_written", Json.ofNat r.written),
   ("legacy_records_before", Json.ofNat r.legacyBefore),
   ("legacy_records_after", Json.ofNat r.legacyAfter),
   ("registry_types", .obj (r.types.map fun (t, c) => (t, c.toJson))),
   ("diffs", .arr (r.diffs.map RecordDiff.toJson)),
   ("failures", .arr (r.failures.map ChunkFailure.toJson)),
   ("last_cursor", Json.ofOption .str r.lastCursor)]

end MigrationReport

end Catalog
