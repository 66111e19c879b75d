import Catalog.Migration.Run
import Catalog.Ownership.Outcome
import Catalog.Text.Blank
import Catalog.Text.Cut

/-!
# Log lines

What is logged on the way, if it is asked for. A filter is a list of rules, each for all parts of
the program whose names start with a given text; the rule with the longest text decides.

## Main definitions

* `LogFilter` — what is logged.
* `LogFilter.parse` — the filter that a text denotes.
* `LogLine` — a line of the log.
-/

namespace Catalog

open Text

/-- How much is logged, from nothing to everything. -/
inductive LogLevel where
  | off
  | error
  | warn
  | info
  | debug
  | trace
deriving DecidableEq, Repr, Inhabited

namespace LogLevel

/-- The position of a level among the others. -/
def rank : LogLevel → Nat
  | off => 0
  | error => 1
  | warn => 2
  | info => 3
  | debug => 4
  | trace => 5

/-- The level with a name or a number. -/
def ofName? (name : List Char) : Option LogLevel :=
  let word := String.ofList (name.map Char.toLower)
  [("off", off), ("0", off), ("error", error), ("1", error), ("warn", warn), ("2", warn),
    ("info", info), ("3", info), ("debug", debug), ("4", debug), ("trace", trace),
    ("5", trace)].lookup word

end LogLevel

/-- How much is logged of the parts whose names start with a text. -/
structure LogRule where
  front : List Char
  level : LogLevel
deriving DecidableEq, Repr, Inhabited

/-- What is logged. -/
abbrev LogFilter := List LogRule

namespace LogFilter

/-- The rule that a text denotes: a level, a part of the program, or both. -/
def rule? (text : List Char) : Option LogRule :=
  match cutFirst '=' text with
  | some (front, level) => (LogLevel.ofName? level).map (⟨front, ·⟩)
  | none =>
    match LogLevel.ofName? text with
    | some level => some ⟨[], level⟩
    | none => some ⟨text, .trace⟩

/-- The filter that a text denotes. Without rules only errors are logged, and a text that denotes no
filter stands for the level `info`. -/
def parse (text : String) : LogFilter :=
  match ((fields ',' text.toList).filter fun f => !f.isEmpty).mapM rule? with
  | none => [⟨[], .info⟩]
  | some [] => [⟨[], .error⟩]
  | some rules => rules

/-- The filter of an environment variable; nothing is logged if it is absent or empty. -/
def ofVariable (value : Option String) : LogFilter :=
  match value with
  | none => []
  | some text => if text.isEmpty then [] else parse text

/-- The level of a part of the program. -/
def levelOf (rules : LogFilter) (part : String) : LogLevel :=
  let matching := rules.filter fun r => r.front.isPrefixOf part.toList
  match matching.foldl (fun (best : Option LogRule) r =>
    match best with
    | none => some r
    | some b => if b.front.length ≤ r.front.length then some r else some b) none with
  | none => .off
  | some r => r.level

end LogFilter

/-- A line of the log. -/
structure LogLine where
  /-- The part of the program it is from. -/
  part : String
  level : LogLevel
  text : String
deriving DecidableEq, Repr, Inhabited

namespace LogLine

/-- Whether a line is logged. -/
def isLogged (rules : LogFilter) (l : LogLine) : Bool :=
  l.level.rank ≤ (rules.levelOf l.part).rank

/-- The name of the level, filled up to five characters. -/
def levelText (l : LogLine) : String :=
  match l.level with
  | .error => "ERROR"
  | .warn => " WARN"
  | .info => " INFO"
  | .debug => "DEBUG"
  | .trace => "TRACE"
  | .off => "  OFF"

/-- The line as it is written. -/
def render (l : LogLine) : String := l.levelText ++ " " ++ l.text ++ "\n"

/-- The lines of a migration. -/
def ofEvents (events : List MigrationEvent) : List LogLine :=
  events.map fun e =>
    ⟨"registry_meta::migrate::runner", if e.isWarning then .warn else .info, e.text⟩

/-- The line for a package whose registry is asked too often. -/
def ofCheck? (c : PackageCheck) : Option LogLine :=
  match c.result with
  | .ok (.rateLimited reference) =>
    some ⟨"registry_meta::registries::" ++ c.registryType.name, .warn,
      "Skipping " ++ c.registryType.label ++ " validation for " ++ reference
        ++ " due to rate limiting"⟩
  | _ => none

/-- The text of those lines that are logged. -/
def renderAll (rules : LogFilter) (lines : List LogLine) : String :=
  String.join ((lines.filter (isLogged rules)).map render)

end LogLine

end Catalog
