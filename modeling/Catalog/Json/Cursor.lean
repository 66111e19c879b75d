import Catalog.Json.Fault

/-!
# Reading a text byte by byte

A cursor is the rest of a text together with its position. A fault is either found in what was read
so far, or in the byte ahead, which then counts as read for the position.

## Main definitions

* `Json.Cursor` — the rest of a text and its position.
* `Json.Reader` — a computation that moves a cursor forward or stops with a defect.
-/

namespace Catalog.Json

/-- The rest of a text and its position. -/
structure Cursor where
  rest : List UInt8
  position : Position
  /-- The length of the whole text. -/
  size : Nat
deriving DecidableEq, Repr, Inhabited

namespace Cursor

/-- The cursor at the start of a text. -/
def ofBytes (bytes : List UInt8) : Cursor := ⟨bytes, .start, bytes.length⟩

/-- The byte ahead as a character; only the ASCII ones have a meaning. -/
def peek? (c : Cursor) : Option Char := c.rest.head?.map Char.ofUInt8

/-- The cursor one byte further; at the end of the text it stays. -/
def next (c : Cursor) : Cursor :=
  match c.rest with
  | [] => c
  | b :: bs => { c with rest := bs, position := c.position.after b }

/-- The cursor `n` bytes further. -/
def advance (c : Cursor) : Nat → Cursor
  | 0 => c
  | n + 1 => c.next.advance n

/-- The cursor after the longest front of bytes with a property. -/
def skipWhile (p : Char → Bool) (c : Cursor) : Cursor :=
  c.advance (c.rest.takeWhile fun b => p (Char.ofUInt8 b)).length

end Cursor

/-- A computation that moves a cursor forward or stops with a defect. -/
abbrev Reader := StateT Cursor (Except Defect)

namespace Reader

/-- Stops with a fault in what was read so far. -/
def failHere {α : Type} (fault : Fault) : Reader α := do
  throw ⟨fault, some (← get).position⟩

/-- Stops with a fault in the byte ahead. -/
def failAhead {α : Type} (fault : Fault) : Reader α := do
  throw ⟨fault, some (← get).next.position⟩

/-- The byte ahead. -/
def peek? : Reader (Option Char) := return (← get).peek?

/-- Moves over the byte ahead. -/
def skip : Reader Unit := modify Cursor.next

/-- Reads one byte; `none` at the end of the text. -/
def next? : Reader (Option Char) := do
  let c ← peek?
  skip
  return c

/-- Moves over the blanks of the grammar and looks at the byte that follows. -/
def peekToken? : Reader (Option Char) := do
  modify (Cursor.skipWhile fun c => c == ' ' || c == '\n' || c == '\t' || c == '\r')
  peek?

/-- An upper bound on the steps that are left. -/
def fuel : Reader Nat := return (← get).size + 1

/-- Reads the rest of a word of the grammar. -/
def word : List Char → Reader Unit
  | [] => pure ()
  | c :: cs => do
    match ← next? with
    | none => failHere (.unfinished .value)
    | some d => if d = c then word cs else failHere .expectedWord

end Reader

end Catalog.Json
