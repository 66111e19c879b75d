import Catalog.Json.Printer
import Catalog.Text.Visible

/-!
# Faults of JSON documents

A document is faulty when its text does not follow the grammar, or when it does not have the layout
that its reader expects. Each cause is a constructor of `Json.Fault`; its wording is
`Json.Fault.message`.

## Main definitions

* `Json.Fault` — a cause.
* `Json.Position` — a line and a column of a text, counted in bytes.
* `Json.Defect` — a cause and, for a document that was read from text, its position.
-/

namespace Catalog

namespace Json

/-- What stands in a place where something else was expected. -/
inductive Found where
  | null
  | bool (value : Bool)
  | num (value : Number)
  | str (value : String)
  | sequence
  | map
deriving DecidableEq, Repr, Inhabited

/-- How a document appears in a fault. -/
def found : Json → Found
  | .null => .null
  | .bool b => .bool b
  | .num n => .num n
  | .str s => .str s
  | .arr _ => .sequence
  | .obj _ => .map

/-- The wording of what was found. -/
def Found.text : Found → String
  | .null => "null"
  | .bool b => "boolean `" ++ (if b then "true" else "false") ++ "`"
  | .num (.int n) => "integer `" ++ toString n ++ "`"
  | .num (.float x) => "floating point `" ++ numberLayout.text x ++ "`"
  | .str s => "string " ++ Text.visible s
  | .sequence => "sequence"
  | .map => "map"

/-- What a text that ends too early was in the middle of. -/
inductive Unfinished where
  | value | list | object | string
deriving DecidableEq, Repr, Inhabited

/-- The wording of an unfinished part. -/
def Unfinished.text : Unfinished → String
  | .value => "a value"
  | .list => "a list"
  | .object => "an object"
  | .string => "a string"

/-- Why a document cannot be read. -/
inductive Fault where
  | unfinished (part : Unfinished)
  | expectedValue
  | expectedWord
  | expectedColon
  | expectedListEnd
  | expectedObjectEnd
  | trailingComma
  | trailingCharacters
  | keyNotString
  | invalidNumber
  | numberTooLarge
  | invalidEscape
  | unfinishedHexEscape
  | loneSurrogate
  | controlCharacter
  | invalidCodePoint
  | tooDeep
  | wrongType (found : Found) (expected : String)
  | wrongValue (found : Found) (expected : String)
  | wrongLength (length : Nat) (expected : String)
  | unknownVariant (name : String) (variants : List String)
  | missingField (name : String)
  | duplicateField (name : String)
deriving DecidableEq, Repr, Inhabited

/-- The names of a closed choice, as a fault lists them. -/
def variantList (variants : List String) : String :=
  match variants.map fun v => "`" ++ v ++ "`" with
  | [] => "there are no variants"
  | [a] => "expected " ++ a
  | [a, b] => "expected " ++ a ++ " or " ++ b
  | vs => "expected one of " ++ String.intercalate ", " vs

/-- The wording of a fault. -/
def Fault.message : Fault → String
  | .unfinished part => "EOF while parsing " ++ part.text
  | .expectedValue => "expected value"
  | .expectedWord => "expected ident"
  | .expectedColon => "expected `:`"
  | .expectedListEnd => "expected `,` or `]`"
  | .expectedObjectEnd => "expected `,` or `\x7d`"
  | .trailingComma => "trailing comma"
  | .trailingCharacters => "trailing characters"
  | .keyNotString => "key must be a string"
  | .invalidNumber => "invalid number"
  | .numberTooLarge => "number out of range"
  | .invalidEscape => "invalid escape"
  | .unfinishedHexEscape => "unexpected end of hex escape"
  | .loneSurrogate => "lone leading surrogate in hex escape"
  | .controlCharacter => "control character (\\u0000-\\u001F) found while parsing a string"
  | .invalidCodePoint => "invalid unicode code point"
  | .tooDeep => "recursion limit exceeded"
  | .wrongType found expected => "invalid type: " ++ found.text ++ ", expected " ++ expected
  | .wrongValue found expected => "invalid value: " ++ found.text ++ ", expected " ++ expected
  | .wrongLength n expected => "invalid length " ++ toString n ++ ", expected " ++ expected
  | .unknownVariant name variants =>
    "unknown variant `" ++ name ++ "`, " ++ variantList variants
  | .missingField name => "missing field `" ++ name ++ "`"
  | .duplicateField name => "duplicate field `" ++ name ++ "`"

/-- A place in a text: the line, from one, and the number of bytes of that line before it. -/
structure Position where
  line : Nat
  column : Nat
deriving DecidableEq, Repr, Inhabited

/-- The start of a text. -/
def Position.start : Position := ⟨1, 0⟩

/-- The position after one more byte. -/
def Position.after (p : Position) (byte : UInt8) : Position :=
  if byte = 10 then ⟨p.line + 1, 0⟩ else ⟨p.line, p.column + 1⟩

/-- A fault of a document, with its position when the document was read from text. -/
structure Defect where
  fault : Fault
  position : Option Position
deriving DecidableEq, Repr, Inhabited

/-- The wording of a defect. -/
def Defect.message (d : Defect) : String :=
  match d.position with
  | none => d.fault.message
  | some p => d.fault.message ++ " at line " ++ toString p.line ++ " column " ++ toString p.column

end Json

end Catalog
