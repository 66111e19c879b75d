import Catalog.Text.Cut
import Catalog.Text.Digits

/-!
# The command line

What can be asked for on the command line, and how a list of arguments asks for it. Options may come
in any order, before and after the file; the value of an option is the next argument, or stands
behind an equals sign. After `--` no argument is an option.

## Main definitions

* `Command` — what can be asked for.
* `Invocation.parse` — what arguments ask for, or why they ask for nothing.
-/

namespace Catalog

open Text

/-! ### What can be asked for -/

/-- The arguments of a check of a document. -/
structure ValidateArguments where
  file : String
  /-- Who should own the packages, if it is not the server of the document. -/
  owner : Option String
  /-- Whether nothing is asked of registries. -/
  offline : Bool
  /-- Whether warnings count as errors. -/
  strict : Bool
  json : Bool
deriving DecidableEq, Repr, Inhabited

/-- The arguments of a migration. -/
structure MigrateArguments where
  store : String
  dryRun : Bool
  atomic : Bool
  chunkSize : Option Nat
  resumeFrom : Option String
  json : Bool
deriving DecidableEq, Repr, Inhabited

/-- What can be asked for. -/
inductive Command where
  | canonicalize (file : String)
  | validate (arguments : ValidateArguments)
  | migrate (arguments : MigrateArguments)
  | schema
deriving DecidableEq, Repr, Inhabited

/-- A command and the configuration file to use. -/
structure Invocation where
  config : Option String
  command : Command
deriving DecidableEq, Repr, Inhabited

/-- Why arguments ask for no command. -/
inductive Usage where
  | help
  | version
  /-- There are no arguments at all. -/
  | nothing
  | noCommand
  | unknownCommand
  | unknownArgument
  | missingArgument
  /-- An option without its value, or an empty path. -/
  | missingValue
  | badValue
  /-- A value for an option that takes none. -/
  | unexpectedValue
  /-- Two arguments that exclude each other, or an option given twice. -/
  | conflict
deriving DecidableEq, Repr, Inhabited

/-- The exit status for arguments that ask for no command. -/
def Usage.exitStatus : Usage → Nat
  | help | version => 0
  | _ => 2

namespace Invocation

/-! ### Grammars -/

/-- What an argument may be. -/
inductive Kind where
  /-- An option without a value. -/
  | flag
  | text
  /-- A text that is not empty. -/
  | path
  | number
deriving DecidableEq, Repr, Inhabited

/-- An argument by its name. -/
structure Argument where
  name : String
  kind : Kind
deriving DecidableEq, Repr, Inhabited

/-- What the arguments at one level may be. -/
structure Grammar where
  options : List Argument
  positional : Option Argument
  /-- The names that lead to another level. -/
  commands : List String
  hasVersion : Bool
deriving DecidableEq, Repr, Inhabited

/-- The option that every level has. -/
def configOption : Argument := ⟨"config", .path⟩

/-- The names of the commands; one of them explains the others. -/
def commandNames : List String := ["canonicalize", "validate", "migrate", "schema", "help"]

/-- The arguments before a command. -/
def outerGrammar : Grammar := ⟨[configOption], none, commandNames, true⟩

/-- The arguments after the name of a command. -/
def innerGrammar (command : String) : Grammar :=
  let file : Argument := ⟨"file", .path⟩
  if command = "canonicalize" then ⟨[configOption], some file, [], false⟩
  else if command = "validate" then
    ⟨[configOption, ⟨"owner", .text⟩, ⟨"offline", .flag⟩, ⟨"strict", .flag⟩, ⟨"json", .flag⟩],
      some file, [], false⟩
  else if command = "migrate" then
    ⟨[configOption, ⟨"store", .path⟩, ⟨"dry-run", .flag⟩, ⟨"atomic", .flag⟩,
      ⟨"chunk-size", .number⟩, ⟨"resume-from", .text⟩, ⟨"json", .flag⟩], none, [], false⟩
  else ⟨[configOption], none, [], false⟩

/-! ### Reading arguments -/

/-- What was read of the arguments at one level. -/
structure Reading where
  /-- The arguments that were read, with their values. -/
  values : List (String × String)
  /-- The last argument, which counts once something follows it, with its value if it has one. -/
  pending : Option (Argument × Option String)
  /-- How many files were read. -/
  files : Nat
deriving DecidableEq, Repr, Inhabited

namespace Reading

/-- Nothing was read. -/
def start : Reading := ⟨[], none, 0⟩

/-- Refuses a value that an argument cannot have. -/
def checkValue (a : Argument) (value : String) : Except Usage Unit :=
  match a.kind with
  | .path => if value.isEmpty then .error .missingValue else .ok ()
  | .number => if (word64? value.toList).isSome then .ok () else .error .badValue
  | .flag | .text => .ok ()

/-- Takes an argument with its value; it must not be there yet. -/
def take (r : Reading) (a : Argument) (value : String) : Except Usage Reading := do
  if (r.values.lookup a.name).isSome then throw .conflict
  checkValue a value
  return { r with values := r.values ++ [(a.name, value)] }

/-- Takes the argument that was pending; its value must be there now. -/
def settle (r : Reading) : Except Usage Reading :=
  match r.pending with
  | none => .ok r
  | some (_, none) => .error .missingValue
  | some (a, some value) => take { r with pending := none } a value

/-- Whether the next argument is the value of an option. -/
def awaitsValue (r : Reading) : Bool := r.pending.any fun (_, value) => value.isNone

/-- Reads an option by its name and the value behind an equals sign. -/
def long (g : Grammar) (r : Reading) (name : String) (value : Option String) :
    Except Usage Reading :=
  let isHelp := name = "help"
  let isVersion := g.hasVersion && name = "version"
  if isHelp || isVersion then
    if value.isSome then .error .unexpectedValue
    else do
      discard r.settle
      throw (if isHelp then .help else .version)
  else
    match g.options.find? (·.name == name) with
    | none => .error .unknownArgument
    | some a =>
      match a.kind, value with
      | .flag, some _ => .error .unexpectedValue
      | .flag, none => do take (← r.settle) a ""
      | _, some value => do take (← r.settle) a value
      | _, none => do return { ← r.settle with pending := some (a, none) }

/-- Reads an option of one letter. -/
def short (g : Grammar) (r : Reading) (letter : Char) : Except Usage Reading :=
  if letter = 'h' then do
    discard r.settle
    throw .help
  else if letter = 'V' && g.hasVersion then do
    discard r.settle
    throw .version
  else .error .unknownArgument

/-- Reads an argument that is no option. -/
def positional (g : Grammar) (r : Reading) (trailing : Bool) (value : String) :
    Except Usage Reading :=
  match g.positional with
  | some a =>
    if r.files = 0 then do
      return { ← r.settle with pending := some (a, some value), files := 1 }
    else .error .unknownArgument
  | none =>
    if g.commands.isEmpty || (trailing && g.commands.contains value) then .error .unknownArgument
    else .error .unknownCommand

/-- Reads an argument that is no command. -/
def argument (g : Grammar) (r : Reading) (arg : String) : Except Usage Reading :=
  match arg.toList with
  | '-' :: '-' :: cs =>
    match cutFirst '=' cs with
    | some (name, value) => r.long g (String.ofList name) (some (String.ofList value))
    | none => r.long g (String.ofList cs) none
  | '-' :: letter :: _ => r.short g letter
  | _ =>
    match r.pending with
    | some (a, none) => .ok { r with pending := some (a, some arg) }
    | _ => r.positional g false arg

/-- Reads arguments up to the name of a command, which is left with the arguments after it. -/
def all (g : Grammar) (r : Reading) (trailing : Bool) :
    List String → Except Usage (Reading × List String)
  | [] => .ok (r, [])
  | arg :: rest =>
    if trailing then do (← r.positional g true arg).all g true rest
    else if !r.awaitsValue && g.commands.contains arg then .ok (r, arg :: rest)
    else if arg = "--" then r.all g true rest
    else do (← r.argument g arg).all g false rest

/-- The value of an argument. -/
def value? (r : Reading) (name : String) : Option String := r.values.lookup name

/-- Whether an argument was read. -/
def has (r : Reading) (name : String) : Bool := (r.value? name).isSome

/-- The value of an argument that must be there. -/
def required (r : Reading) (name : String) : Except Usage String :=
  match r.value? name with
  | some value => .ok value
  | none => .error .missingArgument

end Reading

/-! ### Commands -/

/-- Refuses arguments that exclude each other. -/
def checkConflicts (r : Reading) : Except Usage Unit :=
  if r.has "atomic" && (r.has "chunk-size" || r.has "resume-from") then .error .conflict
  else .ok ()

/-- The command with a name and arguments. -/
def commandOf (name : String) (r : Reading) : Except Usage Command := do
  checkConflicts r
  if name = "canonicalize" then return .canonicalize (← r.required "file")
  else if name = "validate" then
    return .validate {
      file := ← r.required "file"
      owner := r.value? "owner"
      offline := r.has "offline"
      strict := r.has "strict"
      json := r.has "json" }
  else if name = "migrate" then
    return .migrate {
      store := ← r.required "store"
      dryRun := r.has "dry-run"
      atomic := r.has "atomic"
      chunkSize := (r.value? "chunk-size").bind fun v => word64? v.toList
      resumeFrom := r.value? "resume-from"
      json := r.has "json" }
  else return .schema

/-- The explanation of a command, or of all. -/
def explain : List String → Usage
  | [] => .help
  | [name] => if commandNames.contains name then .help else .unknownCommand
  | _ :: _ :: _ => .unknownCommand

/-- What arguments ask for. A configuration file that is named after the command counts more than
one before it. -/
def parse (args : List String) : Except Usage Invocation := do
  match ← Reading.start.all outerGrammar false args with
  | (_, "help" :: rest) => throw (explain rest)
  | (outer, name :: rest) =>
    let (inner, _) ← Reading.start.all (innerGrammar name) false rest
    let inner ← inner.settle
    let command ← commandOf name inner
    let outer ← outer.settle
    return ⟨(inner.value? "config").or (outer.value? "config"), command⟩
  | (outer, []) =>
    let outer ← outer.settle
    throw (if outer.values.isEmpty then .nothing else .noCommand)

end Invocation

end Catalog
