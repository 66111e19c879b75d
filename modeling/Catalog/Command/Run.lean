import Catalog.Canonical.Document
import Catalog.Command.Files
import Catalog.Command.Line
import Catalog.Command.Log
import Catalog.Command.Text
import Catalog.Ownership.Verifier
import Catalog.Record.File
import Catalog.Schema
import Catalog.Settings.Environment
import Catalog.Settings.File

/-!
# Running commands

What a command does, given its arguments, the environment, the files around it and who answers
lookups: what it prints, the file it writes, and how it exits.

## Main definitions

* `Surroundings` — everything a command depends on besides its arguments.
* `pathsOf` — the paths that a command may read.
* `CommandResult` — what a command does.
* `runCommand` — what the command that arguments ask for does.
-/

namespace Catalog

/-- Everything a command depends on besides its arguments. -/
structure Surroundings where
  environment : List (String × String)
  files : Files
  /-- The directory of the user. -/
  home : Option String
  world : World
  /-- When the command starts and when it ends. -/
  started : String
  finished : String

/-- What a command does. -/
structure CommandResult where
  exitStatus : Nat
  output : String
  /-- The file that is written, and its text. -/
  written : Option (String × String)
deriving DecidableEq, Repr, Inhabited

namespace CommandResult

/-- A command that prints something and exits without writing. -/
def printed (exitStatus : Nat) (output : String) : CommandResult := ⟨exitStatus, output, none⟩

/-- A command that ends with an error. -/
def failed (e : Error) : CommandResult := printed 1 (joinLines (errorLines e))

/-- The exit status of a command that finds out whether all is well. -/
def statusOf (good : Bool) : Nat := if good then 0 else 1

end CommandResult

/-! ### Settings -/

/-- The name of a configuration file. -/
def configFileName : String := "registry.toml"

/-- The configuration file of the user. -/
def userConfigFile (home : Option String) : String :=
  match home with
  | some h => h ++ "/.mcp-registry/" ++ configFileName
  | none => ".mcp-registry/" ++ configFileName

/-- The configuration file to read: the one that is asked for, the one in the working directory, or
the one of the user. -/
def configFile (s : Surroundings) (explicit : Option String) : Except Error (Option String) :=
  match explicit with
  | some path =>
    if (s.files path).isPresent then .ok (some path) else .error (.config (.noFile path))
  | none =>
    if (s.files configFileName).isPresent then .ok (some configFileName)
    else if (s.files (userConfigFile s.home)).isPresent then .ok (some (userConfigFile s.home))
    else .ok none

/-- The settings for a command. -/
def loadSettings (s : Surroundings) (explicit : Option String) : Except Error Settings := do
  let start ← match ← configFile s explicit with
    | some path => do Settings.ofFile (← (s.files path).read.mapError .io)
    | none => pure .standard
  let (settings, outcome) := start.applyVariables s.environment
  outcome.mapError .config
  settings.check.mapError .config
  return settings

/-- The file that a command works on. -/
def Command.file? : Command → Option String
  | .canonicalize file => some file
  | .validate a => some a.file
  | .migrate a => some a.store
  | .schema => none

/-- The paths that a command may read. -/
def pathsOf (home : Option String) (args : List String) : List String :=
  match Invocation.parse args with
  | .error _ => []
  | .ok i => [configFileName, userConfigFile home] ++ i.config.toList ++ i.command.file?.toList

/-! ### Commands -/

/-- The text of a file that a command works on. -/
def readFile (s : Surroundings) (path : String) : Except Error String :=
  (s.files path).read.mapError fun reason =>
    .other ("failed to read " ++ path ++ ": " ++ reason)

/-- Prints the canonical form of a server document. -/
def runCanonicalize (s : Surroundings) (path : String) : Except Error CommandResult := do
  let text ← readFile s path
  match Json.parse text with
  | .error d => throw (.other (path ++ " is not valid JSON: " ++ d.message))
  | .ok v => return .printed 0 ((canonicalizeDocument v).pretty ++ "\n")

/-- The outcomes of looking up the packages of a server. -/
def lookUpPackages (s : Surroundings) (settings : Settings) (owner : String)
    (packages : List Package) : Except Error (List PackageCheck) := do
  let verifier ← (Verifier.ofSettings settings).mapError .config
  let limits : Limits := ⟨false, some settings.timeout⟩
  let results := packages.map fun p =>
    (limits.runLookup s.world (verifier.verifyRemotely ⟨settings.plainHosts⟩ false p owner)).1.getD
      (.error .cancelled)
  if results.any fun r => r matches .error .cancelled then throw .cancelled
  return PackageCheck.ofResults packages results

/-- Checks a server document. -/
def runValidate (s : Surroundings) (settings : Settings) (a : ValidateArguments) :
    Except Error CommandResult := do
  let text ← readFile s a.file
  let fs := findingsOfText text settings.strictVariables
  let checks ←
    if a.offline || !fs.isValid then pure []
    else
      match Server.ofText text with
      | .error d => throw (.json d)
      | .ok server =>
        lookUpPackages s settings (a.owner.getD server.name) server.packageList
  let log := LogLine.renderAll (.ofVariable (s.environment.lookup "RUST_LOG"))
    (checks.filterMap LogLine.ofCheck?)
  let report :=
    if a.json then (validationJson fs checks).pretty ++ "\n"
    else joinLines (validationLines (fileName a.file) a.offline a.strict fs checks)
  let passed := (if a.strict then fs.isStrictlyValid else fs.isValid)
    && !checks.any (·.isFailed)
  return .printed (CommandResult.statusOf passed) (log ++ report)

/-- The migration that arguments ask for. -/
def migrationOf (settings : Settings) (a : MigrateArguments) : Migration where
  mode := if a.dryRun then .dryRun else .live
  strategy := if a.atomic then .atomic else .chunked (a.chunkSize.getD settings.chunkSize)
  resumeFrom := a.resumeFrom

/-- Migrates a record file. The file is written even if the run ends with an error later on. -/
def runMigrate (s : Surroundings) (settings : Settings) (a : MigrateArguments) : CommandResult :=
  let state := s.files a.store
  if !state.isFile then .failed (.store (.noFile a.store))
  else
    match state.read with
    | .error reason => .failed (.io reason)
    | .ok text =>
      let before : FileStore := ⟨a.store, some text⟩
      let (after, events, outcome) := (migrationOf settings a).run FileStore.store before
      let log := LogLine.renderAll (.ofVariable (s.environment.lookup "RUST_LOG"))
        (LogLine.ofEvents events)
      let written := if after = before then none else after.content.map (a.store, ·)
      match outcome with
      | .error e => ⟨1, log ++ joinLines (errorLines e), written⟩
      | .ok report =>
        let text :=
          if a.json then (migrationJson report s.started s.finished).pretty ++ "\n"
          else joinLines (migrationLines a.store report)
        ⟨CommandResult.statusOf report.isSuccess, log ++ text, written⟩

/-- What a command does, or the error it ends with. -/
def runInvocation (s : Surroundings) (i : Invocation) : Except Error CommandResult :=
  match i.command with
  | .canonicalize file => runCanonicalize s file
  | .validate a => do runValidate s (← loadSettings s i.config) a
  | .migrate a => do return runMigrate s (← loadSettings s i.config) a
  | .schema => return .printed 0 (joinLines Schema.lines)

/-- What the program says about its version. -/
def versionText : String := "registry-meta 0.1.0"

/-- What is printed when arguments ask for no command. Complaints do not go to the output. -/
def usageText : Usage → String
  | .version => versionText ++ "\n"
  | _ => ""

/-- What the command that arguments ask for does. -/
def runCommand (s : Surroundings) (args : List String) : CommandResult :=
  match Invocation.parse args with
  | .error usage => .printed usage.exitStatus (usageText usage)
  | .ok i =>
    match runInvocation s i with
    | .ok result => result
    | .error e => .failed e

end Catalog
