import Catalog.Text.Blank
import Catalog.Text.Cut
import Catalog.Toml.Basic

/-!
# Reading TOML

The grammar of TOML for the values that a configuration is made of: truth values, integers, strings,
arrays and tables. A document with any other value is refused, like one that is not well formed.

## Main definitions

* `Toml.Reader` — a computation that reads from the front of a text.
* `Toml.parse` — the table that a document denotes.
-/

namespace Catalog.Toml

open Text

/-- A computation that reads from the front of a text or fails. -/
abbrev Reader := StateT (List Char) Option

namespace Reader

/-! ### Characters -/

/-- The character ahead. -/
def peek? : Reader (Option Char) := return (← get).head?

/-- Reads a character. -/
def next : Reader Char := do
  match ← get with
  | [] => failure
  | c :: cs => set cs; return c

/-- Reads the longest front of characters with a property. -/
def takeWhile (p : Char → Bool) : Reader (List Char) := do
  let cs ← get
  set (cs.dropWhile p)
  return cs.takeWhile p

/-- Reads a given text, if it is ahead. -/
def accepts (text : String) : Reader Bool := do
  match afterFront? text.toList (← get) with
  | some rest => set rest; return true
  | none => return false

/-- Reads a given text. -/
def expect (text : String) : Reader Unit := do
  if ← accepts text then return else failure

/-- An upper bound on the steps that are left. -/
def fuel : Reader Nat := return (← get).length + 1

/-! ### Blanks and comments -/

/-- Moves over blanks. -/
def blanks : Reader Unit := discard (takeWhile fun c => c == ' ' || c == '\t')

/-- A character that may stand in a comment. -/
def isCommentChar (c : Char) : Bool := c == '\t' || (0x20 ≤ c.toNat && c.toNat != 0x7f)

/-- Moves over a comment, if one is ahead. -/
def comment : Reader Unit := do
  if ← accepts "#" then discard (takeWhile isCommentChar)

/-- Moves over a line end, if one is ahead. -/
def lineEnd : Reader Bool := do
  if ← accepts "\n" then return true else accepts "\r\n"

/-- Moves over the rest of a line, which holds nothing but a comment. -/
def restOfLine : Reader Unit := do
  blanks
  comment
  unless ← lineEnd do
    unless (← get).isEmpty do failure

/-- Moves over blanks, comments and line ends. -/
def gap : (fuel : Nat) → Reader Unit
  | 0 => failure
  | fuel + 1 => do
    blanks
    comment
    if ← lineEnd then gap fuel

/-- Moves over blanks, comments and line ends. -/
def anyGap : Reader Unit := do gap (← fuel)

/-! ### Strings -/

/-- The value of a hexadecimal digit. -/
def hexDigit (c : Char) : Reader Nat :=
  if c.isDigit then return c.toNat - '0'.toNat
  else if 'a' ≤ c.toLower && c.toLower ≤ 'f' then return c.toLower.toNat - 'a'.toNat + 10
  else failure

/-- The character whose code is continued by some hexadecimal digits. -/
def codePoint (n : Nat) : (digits : Nat) → Reader Char
  | 0 => if n.isValidChar then return Char.ofNat n else failure
  | digits + 1 => do codePoint (16 * n + (← hexDigit (← next))) digits

/-- The character that stands for what follows a backslash. -/
def escape : Reader Char := do
  match ← next with
  | 'b' => return '\x08'
  | 't' => return '\t'
  | 'n' => return '\n'
  | 'f' => return '\x0c'
  | 'r' => return '\r'
  | '"' => return '"'
  | '\\' => return '\\'
  | 'u' => codePoint 0 4
  | 'U' => codePoint 0 8
  | _ => failure

/-- The rest of a string on one line; only one in double quotes has escapes. -/
def lineString (quote : Char) : (fuel : Nat) → Reader (List Char)
  | 0 => failure
  | fuel + 1 => do
    let c ← next
    if c = quote then return []
    else if c = '\\' && quote == '"' then
      let c ← escape
      return c :: (← lineString quote fuel)
    else if isCommentChar c then return c :: (← lineString quote fuel)
    else failure

/-- Moves over blanks and line ends. -/
def blankLines : (fuel : Nat) → Reader Unit
  | 0 => failure
  | fuel + 1 => do
    blanks
    if ← lineEnd then blankLines fuel

/-- Whether blanks and then a line end are ahead. -/
def atLineEnd : Reader Bool := do
  let rest := (← get).dropWhile fun c => c == ' ' || c == '\t'
  return (rest.head? == some '\n') || ("\r\n".toList.isPrefixOf rest)

/-- The rest of a string of several lines. It ends with three quotes, before which there may be two
more. -/
def linesString (quote : Char) : (fuel : Nat) → Reader (List Char)
  | 0 => failure
  | fuel + 1 => do
    if ← accepts (String.ofList [quote, quote, quote]) then
      let more := ((← get).take 2).takeWhile (· == quote)
      set ((← get).drop more.length)
      return more
    else if ← lineEnd then return '\n' :: (← linesString quote fuel)
    else
      let c ← next
      if c = '\\' && quote == '"' then
        if ← atLineEnd then
          blankLines (fuel + 1)
          linesString quote fuel
        else
          let c ← escape
          return c :: (← linesString quote fuel)
      else if isCommentChar c then return c :: (← linesString quote fuel)
      else failure

/-- A string in one of its four forms. -/
def string : Reader String := do
  let quote ← next
  unless quote == '"' || quote == '\x27' do failure
  if ← accepts (String.ofList [quote, quote]) then
    discard lineEnd
    return String.ofList (← linesString quote (← fuel))
  else return String.ofList (← lineString quote (← fuel))

/-! ### Keys -/

/-- A character that may stand in a key without quotes. -/
def isKeyChar (c : Char) : Bool := c.isAlphanum || c == '-' || c == '_'

/-- One part of a key. -/
def keyPart : Reader String := do
  match ← peek? with
  | some '"' => next *> return String.ofList (← lineString '"' (← fuel))
  | some '\x27' => next *> return String.ofList (← lineString '\x27' (← fuel))
  | _ =>
    let cs ← takeWhile isKeyChar
    if cs.isEmpty then failure else return String.ofList cs

/-- The parts of a key, with the blanks around them. -/
def keyParts : (fuel : Nat) → Reader (List String)
  | 0 => failure
  | fuel + 1 => do
    blanks
    let part ← keyPart
    blanks
    if ← accepts "." then return part :: (← keyParts fuel) else return [part]

/-- A key. -/
def key : Reader (List String) := do keyParts (← fuel)

/-! ### Integers -/

/-- The digits of a number, which may have single underscores between them. -/
def digitRun (isDigit : Char → Bool) : (fuel : Nat) → Reader (List Char)
  | 0 => failure
  | fuel + 1 => do
    let c ← next
    unless isDigit c do failure
    match ← peek? with
    | some '_' => next *> return c :: (← digitRun isDigit fuel)
    | some d => if isDigit d then return c :: (← digitRun isDigit fuel) else return [c]
    | none => return [c]

/-- The value of digits in a base. -/
def digitsValue (base : Nat) (ds : List Char) : Nat :=
  ds.foldl (fun n c =>
    base * n + (if c.isDigit then c.toNat - '0'.toNat else c.toLower.toNat - 'a'.toNat + 10)) 0

/-- An integer of 64 bits. -/
def bounded (n : Int) : Reader Toml :=
  if -9223372036854775808 ≤ n && n ≤ 9223372036854775807 then return .int n else failure

/-- An integer in another base, after its prefix. -/
def radixInteger (base : Nat) (isDigit : Char → Bool) : Reader Toml := do
  bounded (digitsValue base (← digitRun isDigit (← fuel)))

/-- A decimal integer, whose sign was read; only zero starts with a zero. -/
def decimalInteger (negative : Bool) : Reader Toml := do
  if ← accepts "0" then return .int 0
  else
    let n := digitsValue 10 (← digitRun Char.isDigit (← fuel))
    bounded (if negative then -(n : Int) else n)

/-- A hexadecimal digit. -/
def isHexDigit (c : Char) : Bool := c.isDigit || ('a' ≤ c.toLower && c.toLower ≤ 'f')

/-- An integer. -/
def integer : Reader Toml := do
  if ← accepts "+" then decimalInteger false
  else if ← accepts "-" then decimalInteger true
  else if ← accepts "0x" then radixInteger 16 isHexDigit
  else if ← accepts "0o" then radixInteger 8 fun c => '0' ≤ c && c ≤ '7'
  else if ← accepts "0b" then radixInteger 2 fun c => c == '0' || c == '1'
  else decimalInteger false

/-! ### Values -/

/-- The items of an array after its opening bracket. -/
def arrayItems (value : Reader Toml) : (fuel : Nat) → Reader (List Toml)
  | 0 => failure
  | fuel + 1 => do
    anyGap
    if ← accepts "]" then return []
    let v ← value
    anyGap
    if ← accepts "," then return v :: (← arrayItems value fuel)
    else
      expect "]"
      return [v]

/-- The entries of an inline table after its opening brace; `first` says that none was read yet. -/
def inlineEntries (value : Reader Toml) (first : Bool) : (fuel : Nat) → Entries → Reader Entries
  | 0, _ => failure
  | fuel + 1, es => do
    blanks
    if first && (← accepts "\x7d") then return es
    let path ← key
    expect "="
    blanks
    let v ← value
    blanks
    match assign path (.value v) es with
    | none => failure
    | some es =>
      if ← accepts "," then inlineEntries value false fuel es
      else
        expect "\x7d"
        return es

/-- A value with at most so many arrays and tables inside each other. -/
def value : (depth : Nat) → Reader Toml
  | 0 => failure
  | depth + 1 => do
    match ← peek? with
    | some '"' | some '\x27' => return .str (← string)
    | some '[' => next *> return .array (← arrayItems (value depth) (← fuel))
    | some '\x7b' =>
      next *> return .table (closeEntries (← inlineEntries (value depth) true (← fuel) []))
    | some 't' => expect "true" *> return .bool true
    | some 'f' => expect "false" *> return .bool false
    | _ => integer

/-- How many arrays and tables may stand inside each other. -/
def maxDepth : Nat := 80

/-! ### Documents -/

/-- The lines up to the next header. -/
def lines : (fuel : Nat) → Reader (List (List String × Toml))
  | 0 => failure
  | fuel + 1 => do
    blanks
    match ← peek? with
    | none | some '[' => return []
    | some '#' | some '\n' | some '\r' =>
      comment
      unless (← lineEnd) || (← get).isEmpty do failure
      lines fuel
    | some _ =>
      let path ← key
      expect "="
      blanks
      let v ← value maxDepth
      restOfLine
      return (path, v) :: (← lines fuel)

/-- The header of a table, or of an element of an array of tables. -/
def header : Reader Header := do
  let isElement ← accepts "[["
  unless isElement do expect "["
  let path ← key
  expect (if isElement then "]]" else "]")
  restOfLine
  return ⟨isElement, path⟩

/-- The headers up to the end, each with the lines that follow it. -/
def sections : (fuel : Nat) → Reader (List Section)
  | 0 => failure
  | fuel + 1 => do
    if (← get).isEmpty then return []
    let h ← header
    let ls ← lines (← Reader.fuel)
    return ⟨some h, ls⟩ :: (← sections fuel)

/-- A document in its sections. -/
def document : Reader (List Section) := do
  discard (accepts "\ufeff")
  let ls ← lines (← fuel)
  return ⟨none, ls⟩ :: (← sections (← fuel))

end Reader

/-- The table that a document denotes. -/
def parse (text : String) : Option (List (String × Toml)) := do
  let (document, _) ← Reader.document.run text.toList
  return closeEntries (← build document)

end Catalog.Toml
