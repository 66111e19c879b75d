import Catalog.Json.Reader

/-!
# Layouts

A layout says what may stand in a place of a document, and reads it in two ways: from a document at
hand, and straight from text, where the first fault in the order of the text is reported with its
position, be it one of the grammar or of the layout.

A record is given by its fields. An open record keeps the members it does not know and must be an
object. A closed record moves over the members it does not know and may also be written as an array
of its fields in order.

## Main definitions

* `Json.Layout` — what may stand in a place.
* `Json.Layout.openRecord`, `Json.Layout.closedRecord` — records.
* `Json.Layout.decode`, `Json.Layout.decodeText` — the document, if it has the layout.
-/

namespace Catalog.Json

/-- What may stand in a place of a document. -/
structure Layout where
  /-- Refuses a document that does not have the layout. -/
  check : Json → Except Fault Unit
  /-- Reads a document that has the layout, with the given number of containers nested at most. -/
  read : (depth : Nat) → Reader Json

namespace Layout

/-- Stops because the value ahead is not what was expected. A scalar is read first. -/
def mismatch {α : Type} (expected : String) : Reader α := do
  let fail (found : Found) : Reader α := Reader.failHere (.wrongType found expected)
  match ← Reader.peekToken? with
  | some 'n' => Reader.skip; Reader.word ['u', 'l', 'l']; fail .null
  | some 't' => Reader.skip; Reader.word ['r', 'u', 'e']; fail (.bool true)
  | some 'f' => Reader.skip; Reader.word ['a', 'l', 's', 'e']; fail (.bool false)
  | some '-' => Reader.skip; fail (.num (← Reader.number true))
  | some '"' => Reader.skip; fail (.str (← Reader.stringBody))
  | some '[' => fail .sequence
  | some '\x7b' => fail .map
  | some c =>
    if c.isDigit then fail (.num (← Reader.number false)) else Reader.failAhead .expectedValue
  | none => Reader.failAhead (.unfinished .value)

/-- Enters a container. -/
def enter {α : Type} (depth : Nat) (inside : Nat → Reader α) : Reader α :=
  match depth with
  | 0 => Reader.failAhead .tooDeep
  | depth + 1 => do Reader.skip; inside depth

/-- Any document. -/
def any : Layout where
  check _ := pure ()
  read := Reader.value

/-- A string. -/
def string : Layout where
  check
    | .str _ => pure ()
    | v => throw (.wrongType v.found "a string")
  read _ := do
    match ← Reader.peekToken? with
    | some '"' => Reader.skip; return .str (← Reader.stringBody)
    | _ => mismatch "a string"

/-- A truth value. -/
def bool : Layout where
  check
    | .bool _ => pure ()
    | v => throw (.wrongType v.found "a boolean")
  read _ := do
    match ← Reader.peekToken? with
    | some 't' => Reader.skip; Reader.word ['r', 'u', 'e']; return .bool true
    | some 'f' => Reader.skip; Reader.word ['a', 'l', 's', 'e']; return .bool false
    | _ => mismatch "a boolean"

/-- Why a number is no unsigned 64-bit word. -/
def wordFault : Number → Except Fault Unit
  | .int n => if 0 ≤ n then pure () else throw (.wrongValue (.num (.int n)) "u64")
  | .float x => throw (.wrongType (.num (.float x)) "u64")

/-- An unsigned 64-bit word. -/
def word : Layout where
  check
    | .num n => wordFault n
    | v => throw (.wrongType v.found "u64")
  read _ := do
    let accept (n : Number) : Reader Json :=
      match wordFault n with
      | .ok _ => return .num n
      | .error fault => Reader.failHere fault
    match ← Reader.peekToken? with
    | some '-' => Reader.skip; accept (← Reader.number true)
    | some c => if c.isDigit then accept (← Reader.number false) else mismatch "u64"
    | none => mismatch "u64"

/-- `null` or a document of another layout. -/
def optional (l : Layout) : Layout where
  check
    | .null => pure ()
    | v => l.check v
  read depth := do
    match ← Reader.peekToken? with
    | some 'n' => Reader.skip; Reader.word ['u', 'l', 'l']; return .null
    | _ => l.read depth

/-- An array of documents of one layout. -/
def list (l : Layout) : Layout where
  check
    | .arr xs => xs.forM l.check
    | v => throw (.wrongType v.found "a sequence")
  read depth := do
    match ← Reader.peekToken? with
    | some '[' => enter depth fun depth => return .arr (← Reader.items (l.read depth))
    | _ => mismatch "a sequence"

/-- An object whose members all have one layout. -/
def table (l : Layout) : Layout where
  check
    | .obj ms => ms.forM fun (_, v) => l.check v
    | v => throw (.wrongType v.found "a map")
  read depth := do
    match ← Reader.peekToken? with
    | some '\x7b' => enter depth fun depth => return .obj (← Reader.members (l.read depth))
    | _ => mismatch "a map"

/-- One of a few names. In place of a name there may be an object with the name as its only key and
`null` as its value. -/
def choice (names : List String) : Layout where
  check
    | .str s => if names.contains s then pure () else throw (.unknownVariant s names)
    | .obj [(s, v)] =>
      if !names.contains s then throw (.unknownVariant s names)
      else if v.isNull then pure ()
      else throw (.wrongType v.found "unit")
    | .obj _ => throw (.wrongValue .map "map with a single key")
    | v => throw (.wrongType v.found "string or map")
  read depth := do
    let name : Reader String := do
      let s ← Reader.stringBody
      if names.contains s then return s else Reader.failHere (.unknownVariant s names)
    match ← Reader.peekToken? with
    | none => Reader.failAhead (.unfinished .value)
    | some '"' => Reader.skip; return .str (← name)
    | some '\x7b' =>
      enter depth fun _ => do
        let s ← match ← Reader.peekToken? with
          | some '"' => do Reader.skip; name
          | _ => mismatch "variant identifier"
        Reader.colon
        match ← Reader.peekToken? with
        | some 'n' => Reader.skip; Reader.word ['u', 'l', 'l']
        | _ => mismatch "unit"
        match ← Reader.peekToken? with
        | some '\x7d' => Reader.skip; return .str s
        | some _ => Reader.failHere .expectedValue
        | none => Reader.failHere (.unfinished .object)
    | some _ => Reader.failAhead .expectedValue

/-! ### Records -/

/-- A known member of a record. -/
structure Field where
  name : String
  layout : Layout
  /-- Whether a record without the member is refused. -/
  isRequired : Bool

/-- A member that must be present. -/
def Field.required (name : String) (layout : Layout) : Field := ⟨name, layout, true⟩

/-- A member that may be absent. -/
def Field.defaulted (name : String) (layout : Layout) : Field := ⟨name, layout, false⟩

/-- The first required member that is absent. -/
def missing? (fields : List Field) (ms : Members) : Option String :=
  (fields.find? fun f => f.isRequired && (ms.value? f.name).isNone).map (·.name)

/-- Checks the known members in the order of the object, and then that none is missing. -/
def checkMembers (fields : List Field) (ms : Members) : Except Fault Unit := do
  ms.forM fun (key, v) =>
    match fields.find? (·.name == key) with
    | some f => f.layout.check v
    | none => pure ()
  match missing? fields ms with
  | some name => throw (.missingField name)
  | none => pure ()

/-- Reads the members of a record after the opening bracket. A known member must not come twice;
`others` reads the value of an unknown one. -/
def readMembers (fields : List Field) (depth : Nat)
    (others : Members → String → Reader Members) : Reader Json := do
  let member (ms : Members) (key : String) : Reader Members := do
    match fields.find? (·.name == key) with
    | some f =>
      if (ms.value? key).isSome then
        if (← Reader.peekToken?) = some '\x7d' then Reader.skip
        Reader.failHere (.duplicateField key)
      else
        Reader.colon
        return ms.set key (← f.layout.read depth)
    | none =>
      Reader.colon
      others ms key
  let ms ← Reader.membersWith member []
  match missing? fields ms with
  | some name => Reader.failHere (.missingField name)
  | none => return .obj ms

/-- A record that keeps the members it does not know. -/
def openRecord (name : String) (fields : List Field) : Layout where
  check
    | .obj ms => checkMembers fields ms
    | v => throw (.wrongType v.found ("struct " ++ name))
  read depth := do
    let inside (depth : Nat) : Reader Json :=
      readMembers fields depth fun ms key => return ms.set key (← Reader.value depth)
    match ← Reader.peekToken? with
    | some '\x7b' => enter depth inside
    | _ => mismatch ("struct " ++ name)

/-- How the length of a record is expected. -/
def lengthText (name : String) (fields : List Field) : String :=
  "struct " ++ name ++ " with " ++ toString fields.length
    ++ (if fields.length = 1 then " element" else " elements")

/-- Checks the items of an array that stand for the fields of a record; `count` of them came before.
The array may end before fields that are not required. -/
def checkItems (name : String) (all : List Field) (total : Nat) :
    (count : Nat) → (fields : List Field) → List Json → Except Fault Unit
  | _, [], [] => pure ()
  | _, [], _ :: _ => throw (.wrongLength total "fewer elements in array")
  | count, fields, [] =>
    match fields.findIdx? (·.isRequired) with
    | some i => throw (.wrongLength (count + i) (lengthText name all))
    | none => pure ()
  | count, f :: fields, v :: vs => do
    f.layout.check v
    checkItems name all total (count + 1) fields vs

/-- Reads the items of an array that stand for the fields of a record, after the opening bracket. -/
def readItems (name : String) (all : List Field) (depth : Nat) :
    (fields : List Field) → (acc : List Json) → Reader (List Json)
  | [], acc => do
    match ← Reader.peekToken? with
    | some ']' => Reader.skip; return acc
    | some ',' =>
      Reader.skip
      match ← Reader.peekToken? with
      | some ']' => Reader.failAhead .trailingComma
      | _ => Reader.failAhead .trailingCharacters
    | some _ => Reader.failAhead .trailingCharacters
    | none => Reader.failAhead (.unfinished .list)
  | f :: fields, acc => do
    match ← Reader.peekToken? with
    | none => Reader.failAhead (.unfinished .list)
    | some ']' =>
      Reader.skip
      match (f :: fields).findIdx? (·.isRequired) with
      | some i => Reader.failHere (.wrongLength (acc.length + i) (lengthText name all))
      | none => return acc
    | some c =>
      if acc.isEmpty then
        readItems name all depth fields [← f.layout.read depth]
      else if c = ',' then
        Reader.skip
        match ← Reader.peekToken? with
        | none => Reader.failAhead (.unfinished .value)
        | some ']' => Reader.failAhead .trailingComma
        | some _ => readItems name all depth fields (acc ++ [← f.layout.read depth])
      else Reader.failAhead .expectedListEnd

/-- A record that moves over the members it does not know. -/
def closedRecord (name : String) (fields : List Field) : Layout where
  check
    | .obj ms => checkMembers fields ms
    | .arr vs => checkItems name fields vs.length 0 fields vs
    | v => throw (.wrongType v.found ("struct " ++ name))
  read depth := do
    let inside (depth : Nat) : Reader Json :=
      readMembers fields depth fun ms _ => do Reader.skipValue; return ms
    match ← Reader.peekToken? with
    | some '\x7b' => enter depth inside
    | some '[' => enter depth fun depth => return .arr (← readItems name fields depth fields [])
    | _ => mismatch ("struct " ++ name)

/-- The members of a closed record, be it written as an object or as an array. -/
def recordMembers (fields : List Field) : Json → Members
  | .obj ms => ms
  | .arr vs => (fields.map (·.name)).zip vs
  | _ => []

/-! ### Decoding -/

/-- The document that a text in bytes holds, if it has the layout. -/
def decodeBytes (l : Layout) (bytes : List UInt8) : Except Defect Json :=
  readAll (l.read Reader.maxDepth) bytes

/-- The document that a text holds, if it has the layout. -/
def decodeText (l : Layout) (text : String) : Except Defect Json :=
  l.decodeBytes text.toUTF8.toList

/-- The document itself, if it has the layout. -/
def decode (l : Layout) (v : Json) : Except Defect Json :=
  match l.check v with
  | .ok _ => .ok v
  | .error fault => .error ⟨fault, none⟩

end Layout

end Catalog.Json
