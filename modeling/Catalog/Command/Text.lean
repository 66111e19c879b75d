import Catalog.Json.Printer
import Catalog.Migration.Run
import Catalog.Ownership.Outcome
import Catalog.Text.Lowercase
import Catalog.Validation.Server

/-!
# What commands print

The reports of commands in lines for people, and their error messages.

## Main definitions

* `validationLines` — the report of a check of a document.
* `migrationLines` — the report of a migration.
* `errorLines` — an error that ended a command.
-/

namespace Catalog

open Text

/-- Lines as one text. -/
def joinLines (lines : List String) : String := String.join (lines.map (· ++ "\n"))

/-- A number of things, in words. -/
def plural (count : Nat) (noun : String) : String :=
  if count = 1 then "1 " ++ noun else toString count ++ " " ++ noun ++ "s"

/-! ### Checks of documents -/

/-- The lines of a finding. In a strict check a warning is called an error. -/
def findingLines (strict : Bool) (f : Finding) : List String :=
  let label := if f.severity = .error || strict then "error" else "warning"
  ["  " ++ label ++ "[" ++ f.code ++ "]: → " ++ f.location]
    ++ (match f.problem.help? with
      | some help => ["      ├─ " ++ f.problem.details, "      └─ help: " ++ help]
      | none => ["      └─ " ++ f.problem.details])
    ++ [""]

/-- The lines of the outcome for a package. -/
def checkLines (c : PackageCheck) : List String :=
  let marker := match c.result with
    | .ok .verified => "✓"
    | .ok _ => "-"
    | .error _ => "✗"
  ["  " ++ marker ++ " packages[" ++ toString c.index ++ "] " ++ c.registryType.name ++ " "
    ++ c.identifier]
    ++ (c.detail?.map fun d => "      └─ " ++ d).toList

/-- The last line of the report of a check. -/
def verdictLine (errors warnings : Nat) (strict : Bool) : String :=
  if strict && 0 < errors + warnings then
    "  ✗ " ++ plural (errors + warnings) "error" ++ " (strict mode)"
  else if 0 < errors then
    "  ✗ " ++ plural errors "error"
      ++ (if 0 < warnings then ", " ++ plural warnings "warning" else "")
  else if 0 < warnings then "  ✓ valid (" ++ plural warnings "warning" ++ ")"
  else "  ✓ valid"

/-- The report of a check of a document. -/
def validationLines (name : String) (offline strict : Bool) (fs : Findings)
    (checks : List PackageCheck) : List String :=
  let mode := if offline then "offline" else "registry checks"
  ["  Validating " ++ name ++ " (" ++ mode ++ ")", ""]
    ++ (fs.errors ++ fs.warnings).flatMap (findingLines strict)
    ++ checks.flatMap checkLines
    ++ (if checks.isEmpty then [] else [""])
    ++ [verdictLine (fs.errors.length + (checks.filter (·.isFailed)).length) fs.warnings.length
      strict]

/-- The report of a check of a document as a document. -/
def validationJson (fs : Findings) (checks : List PackageCheck) : Json :=
  let passed := !checks.any (·.isFailed)
  .obj [("valid", .bool (fs.isValid && passed)),
    ("strict_valid", .bool (fs.isStrictlyValid && passed)),
    ("errors", .arr (fs.errors.map Finding.toJson)),
    ("warnings", .arr (fs.warnings.map Finding.toJson)),
    ("packages", .arr (checks.map PackageCheck.toJson))]

/-! ### Migrations -/

/-- A value as it stands in a line: a text without quotes, anything else as a document. -/
def valueText : Json → String
  | .str s => s
  | v => v.compact

/-- The lines of a change of the package at an index. -/
def changeLines (index : Nat) (c : FieldChange) : List String :=
  let location := "packages[" ++ toString index ++ "]." ++ c.field
  match c.before, c.after with
  | some old, some new =>
    ["      " ++ location ++ " " ++ valueText old ++ " → " ++ valueText new]
  | some old, none => ["      - " ++ location ++ " " ++ valueText old]
  | none, some new => ["      + " ++ location ++ " " ++ valueText new]
  | none, none => []

/-- The lines of the changes of a record. -/
def diffLines (d : RecordDiff) : List String :=
  ["  ~ " ++ d.recordId]
    ++ (d.packages.flatMap fun p => p.changes.flatMap (changeLines p.index)) ++ [""]

/-- The ids of a chunk. -/
def chunkRange (f : ChunkFailure) : String := f.firstId ++ "..=" ++ f.lastId

/-- The lines of a chunk that failed. -/
def failureLines (f : ChunkFailure) : List String :=
  ["  error chunk " ++ toString f.chunk ++ " (" ++ chunkRange f ++ ")",
   "      └─ " ++ f.error.message, ""]

/-- A text filled up with blanks. -/
def padRight (width : Nat) (s : String) : String :=
  s ++ String.ofList (List.replicate (width - s.length) ' ')

/-- The line of the packages of a registry type. -/
def countLine (name : String) (c : TypeCounts) : String :=
  "    " ++ padRight 8 name ++ " " ++ toString c.packages ++ " packages, legacy "
    ++ toString c.legacyBefore ++ " → " ++ toString c.legacyAfter

/-- What is left to do after chunks failed. -/
def failureHint (r : MigrationReport) : String :=
  let rest := match r.mode with
    | .dryRun => "nothing was written"
    | .live => "every other chunk was committed"
  "only chunks " ++ String.intercalate ", " (r.failures.map chunkRange) ++ " failed and " ++ rest
    ++ "; fix those records and rerun"

/-- The last lines of the report of a migration. -/
def migrationVerdict (r : MigrationReport) : List String :=
  if r.isSuccess then
    ["", match r.mode with
      | .dryRun => "  ✓ dry run complete"
      | .live => "  ✓ migration complete"]
  else
    ["", "  ✗ " ++ toString r.failures.length ++ " failed chunk(s)",
     "    hint: " ++ failureHint r]

/-- The report of a migration of a record file. -/
def migrationLines (path : String) (r : MigrationReport) : List String :=
  ["  Migrating " ++ path ++ " (" ++ r.mode.name ++ ", " ++ r.strategy.text ++ ")", ""]
    ++ r.diffs.flatMap diffLines
    ++ r.failures.flatMap failureLines
    ++ ["  " ++ toString r.scanned ++ " scanned, " ++ toString r.changed ++ " changed, "
        ++ toString r.written ++ " written",
      "  legacy records: " ++ toString r.legacyBefore ++ " → " ++ toString r.legacyAfter]
    ++ (r.types.map fun (name, c) => countLine name c)
    ++ migrationVerdict r

/-- The report of a migration as a document, with the times of its start and its end. -/
def migrationJson (r : MigrationReport) (started finished : String) : Json :=
  .obj (r.toMembers ++ [("started_at", .str started), ("finished_at", .str finished)])

/-! ### Errors -/

/-- A text without the occurrences of another one. -/
def without (part : List Char) : (skip : Nat) → List Char → List Char
  | _, [] => []
  | skip + 1, _ :: cs => without part skip cs
  | 0, c :: cs =>
    if part.isPrefixOf (c :: cs) then without part (part.length - 1) cs
    else c :: without part 0 cs

/-- The parts of a text before and after the first occurrence of a colon and a blank. -/
def cutColon : List Char → Option (List Char × List Char)
  | [] => none
  | ':' :: ' ' :: cs => some ([], cs)
  | c :: cs => (cutColon cs).map fun (a, b) => (c :: a, b)

/-- The line of an error message. A short front that ends in the word for an error is put in
brackets. -/
def messageLine (message : String) : String :=
  let plain := "  error " ++ message
  match cutColon message.toList with
  | none => plain
  | some (front, rest) =>
    let front := String.ofList front
    if front.utf8ByteSize < 30 && "error".toList.isSuffixOf front.toList then
      let kind := without " error".toList 0 (lowercase front).toList
      "  error[" ++ String.ofList kind ++ "] " ++ String.ofList rest
    else plain

/-- The lines of an error that ended a command. -/
def errorLines (e : Error) : List String :=
  let body := match e with
    | .config fault =>
      ["  error Invalid configuration", "", "    " ++ fault.message, "",
       "    hint: Check registry.toml and MCP_REGISTRY_* variables"]
    | .malformedRecord id =>
      ["  error Malformed record '" ++ id ++ "'", "", "    'packages' is not an array", "",
       "    hint: Nothing was written. Fix the record or use chunked mode"]
    | .cancelled => ["  ✗ Operation cancelled"]
    | e => [messageLine e.message]
  [""] ++ body ++ [""]

end Catalog
