import Catalog.Canonical.Document
import Catalog.Migration.Report

/-!
# Running a migration

A migration brings the packages of all stored records into the canonical form and writes back
those that changed, in one transaction or in one for every chunk of records. A chunk that fails is
rolled back and reported, and the migration goes on with the next one; a migration in one
transaction stops with the error.

## Main definitions

* `planRecord` — the packages to write for a record.
* `Migration` — the mode, the strategy and where to start.
* `Migration.run` — the store after the run, what was noted on the way, and the report.
-/

namespace Catalog

/-! ### Planning -/

/-- The packages to write for one record. -/
structure Planned where
  id : String
  packages : Json
deriving DecidableEq, Repr, Inhabited

/-- The canonical packages of a record, unless they are the stored ones already or there are
none. -/
def planRecord (r : Record) : Except Error (Option Json) :=
  match r.packages? with
  | none => .ok none
  | some (.arr []) => .ok none
  | some (.arr xs) =>
    let canonical := canonicalizePackages (.arr xs)
    .ok (if canonical.same (.arr xs) then none else some canonical)
  | some _ => .error (.malformedRecord r.id)

/-- The report after one more record with the packages given was read and planned. -/
def MigrationReport.scan (report : MigrationReport) (id : String) (packages : Json)
    (replacement : Option Json) : MigrationReport :=
  let counted := ({ report with scanned := report.scanned + 1 }.tallyBefore packages).tallyAfter
    (replacement.getD packages)
  match replacement with
  | none => counted
  | some new =>
    { counted with
      changed := counted.changed + 1
      diffs := counted.diffs ++ (diffPackages id packages new).toList }

/-- Plans records in order and counts them in the report, up to the first malformed one. -/
def planAll : List Record → MigrationReport → Except Error (List Planned × MigrationReport)
  | [], report => .ok ([], report)
  | r :: rs, report =>
    match r.packages? with
    | none => planAll rs report
    | some packages => do
      let replacement ← planRecord r
      let (planned, report) ← planAll rs (report.scan r.id packages replacement)
      return (replacement.toList.map (⟨r.id, ·⟩) ++ planned, report)

/-! ### Writing -/

/-- What is noted while a migration runs. -/
inductive MigrationEvent where
  | started (records : Nat)
  | chunkWritten (chunk : Nat) (firstId lastId : String) (records written : Nat)
  | chunkFailed (chunk : Nat) (firstId lastId : String) (error : Error)
  | rollbackFailed (error : Error)
  | finished (scanned changed written legacyAfter : Nat)
deriving DecidableEq, Repr, Inhabited

namespace MigrationEvent

/-- Whether the event is a warning. -/
def isWarning : MigrationEvent → Bool
  | chunkFailed .. | rollbackFailed _ => true
  | _ => false

/-- The wording of an event. -/
def text : MigrationEvent → String
  | started n => "Migrating " ++ toString n ++ " records in one transaction"
  | chunkWritten chunk firstId lastId records written =>
    "Chunk " ++ toString chunk ++ " (" ++ firstId ++ "..=" ++ lastId ++ "): "
      ++ toString records ++ " records, " ++ toString written ++ " written"
  | chunkFailed chunk firstId lastId error =>
    "Chunk " ++ toString chunk ++ " (" ++ firstId ++ "..=" ++ lastId ++ ") rolled back: "
      ++ error.message
  | rollbackFailed error => "Rollback failed: " ++ error.message
  | finished scanned changed written legacyAfter =>
    "Migration finished: " ++ toString scanned ++ " scanned, " ++ toString changed
      ++ " changed, " ++ toString written ++ " written, " ++ toString legacyAfter
      ++ " legacy records remaining"

end MigrationEvent

variable {σ τ : Type}

/-- Writes planned packages in a transaction, up to the first write that is refused. -/
def writeAll (store : RecordStore σ τ) (s : σ) : τ → List Planned → Except (τ × Error) τ
  | tx, [] => .ok tx
  | tx, p :: ps =>
    match store.write s tx p.id p.packages with
    | .ok tx => writeAll store s tx ps
    | .error e => .error (tx, e)

/-- Writes planned packages in one transaction and commits it, or rolls it back when a write is
refused. The result is the number of packages written. -/
def writeAndCommit (store : RecordStore σ τ) (s : σ) (planned : List Planned) :
    σ × List MigrationEvent × Except Error Nat :=
  match store.start s with
  | .error e => (s, [], .error e)
  | .ok tx =>
    match writeAll store s tx planned with
    | .error (tx, e) =>
      match store.rollback s tx with
      | .ok () => (s, [], .error e)
      | .error r => (s, [.rollbackFailed r], .error e)
    | .ok tx =>
      match store.commit s tx with
      | (s, .ok ()) => (s, [], .ok planned.length)
      | (s, .error e) => (s, [], .error e)

/-! ### Running -/

/-- How a migration works and where it starts. -/
structure Migration where
  mode : MigrationMode
  strategy : MigrationStrategy
  /-- Only records with greater ids are dealt with. -/
  resumeFrom : Option String
deriving DecidableEq, Repr, Inhabited

/-- A migration on its way. -/
structure MigrationState (σ : Type) where
  store : σ
  report : MigrationReport
  /-- What was noted, in order. -/
  events : List MigrationEvent

namespace Migration

/-- Writes what was planned, in a live run. -/
def persist (m : Migration) (store : RecordStore σ τ) (s : σ) (planned : List Planned) :
    σ × List MigrationEvent × Except Error Nat :=
  match m.mode, planned with
  | .live, _ :: _ => writeAndCommit store s planned
  | _, _ => (s, [], .ok 0)

/-- Deals with all records in one transaction. -/
def runAtomic (m : Migration) (store : RecordStore σ τ) (st : MigrationState σ) :
    MigrationState σ × Except Error Unit :=
  match store.select st.store m.resumeFrom none with
  | .error e => (st, .error e)
  | .ok records =>
    let st := { st with events := st.events ++ [.started records.length] }
    match planAll records st.report with
    | .error e => (st, .error e)
    | .ok (planned, report) =>
      let report := { report with
        lastCursor := (records.getLast?.map (·.id)).or report.lastCursor }
      match m.persist store st.store planned with
      | (s, events, .error e) => (⟨s, report, st.events ++ events⟩, .error e)
      | (s, events, .ok written) =>
        (⟨s, { report with written := report.written + written }, st.events ++ events⟩, .ok ())

/-- Deals with one chunk of records. When it fails, its records do not count in the report. -/
def runChunk (m : Migration) (store : RecordStore σ τ) (chunk : Nat) (firstId lastId : String)
    (records : List Record) (st : MigrationState σ) : MigrationState σ :=
  let fail (s : σ) (events : List MigrationEvent) (e : Error) : MigrationState σ :=
    { store := s
      report := { st.report with
        failures := st.report.failures ++ [⟨chunk, firstId, lastId, e⟩]
        lastCursor := some lastId }
      events := st.events ++ events ++ [.chunkFailed chunk firstId lastId e] }
  match planAll records st.report with
  | .error e => fail st.store [] e
  | .ok (planned, report) =>
    match m.persist store st.store planned with
    | (s, events, .error e) => fail s events e
    | (s, events, .ok written) =>
      { store := s
        report := { report with
          written := report.written + written
          lastCursor := some lastId }
        events := st.events ++ events
          ++ [.chunkWritten chunk firstId lastId records.length written] }

/-- Deals with chunk after chunk, the first of which has the number given, until one is not full. -/
def runChunks (m : Migration) (store : RecordStore σ τ) (size : Nat) :
    (fuel : Nat) → (chunk : Nat) → (cursor : Option String) → MigrationState σ →
      MigrationState σ × Except Error Unit
  | 0, _, _, st => (st, .ok ())
  | fuel + 1, chunk, cursor, st =>
    match store.select st.store cursor (some size) with
    | .error e => (st, .error e)
    | .ok records =>
      match records.head?, records.getLast? with
      | some first, some last =>
        let st := m.runChunk store chunk first.id last.id records st
        if records.length < size then (st, .ok ())
        else m.runChunks store size fuel (chunk + 1) (some last.id) st
      | _, _ => (st, .ok ())

/-- More steps than there can be chunks: every chunk takes at least one of the selected records. -/
def chunkBound (m : Migration) (store : RecordStore σ τ) (s : σ) : Nat :=
  match store.select s m.resumeFrom none with
  | .ok records => records.length + 1
  | .error _ => 1

/-- Deals with all records. -/
def runRecords (m : Migration) (store : RecordStore σ τ) (st : MigrationState σ) :
    MigrationState σ × Except Error Unit :=
  match m.strategy with
  | .atomic => m.runAtomic store st
  | .chunked 0 => (st, .error (.config .emptyChunks))
  | .chunked size => m.runChunks store size (m.chunkBound store st.store) 0 m.resumeFrom st

/-- Counts anew, after a live run, what is still legacy in the store. -/
def recount (m : Migration) (store : RecordStore σ τ) (st : MigrationState σ) :
    Except Error MigrationReport :=
  match m.mode with
  | .dryRun => .ok st.report
  | .live => (store.select st.store m.resumeFrom none).map st.report.recount

/-- Runs a migration on the contents of a store. -/
def run (m : Migration) (store : RecordStore σ τ) (s : σ) :
    σ × List MigrationEvent × Except Error MigrationReport :=
  match m.runRecords store ⟨s, .empty m.mode m.strategy m.resumeFrom, []⟩ with
  | (st, .error e) => (st.store, st.events, .error e)
  | (st, .ok ()) =>
    match m.recount store st with
    | .error e => (st.store, st.events, .error e)
    | .ok report =>
      (st.store,
       st.events ++ [.finished report.scanned report.changed report.written report.legacyAfter],
       .ok report)

end Migration

end Catalog
