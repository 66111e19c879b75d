import Catalog.Json.Cursor

/-!
# Reading JSON text

The grammar of JSON over bytes. Containers nest at most 127 deep. Of two members with one key the
last value counts, in the place of the first. A second, more lenient scanner moves over values that
nobody looks at: it follows the same grammar but neither bounds the depth, nor checks the range of
numbers, nor the pairing of surrogates.

## Main definitions

* `Json.Reader.value` — reads a document.
* `Json.Reader.skipValue` — moves over a document.
* `Json.parse` — the document that a whole text holds.
-/

namespace Catalog.Json

namespace Reader

/-! ### Strings -/

/-- The value of a hexadecimal digit. -/
def hexValue? (c : Char) : Option Nat :=
  if '0' ≤ c ∧ c ≤ '9' then some (c.toNat - '0'.toNat)
  else if 'a' ≤ c ∧ c ≤ 'f' then some (c.toNat - 'a'.toNat + 10)
  else if 'A' ≤ c ∧ c ≤ 'F' then some (c.toNat - 'A'.toNat + 10)
  else none

/-- Reads four hexadecimal digits. -/
def hex4 : Reader Nat := do
  let c ← get
  let bytes := c.rest.take 4
  set (c.advance 4)
  if bytes.length < 4 then failHere (.unfinished .string)
  else
    match bytes.mapM fun b => hexValue? (Char.ofUInt8 b) with
    | some ds => return ds.foldl (fun n d => 16 * n + d) 0
    | none => failHere .invalidEscape

/-- Reads one expected byte of the second half of a surrogate pair. -/
def pairByte (expected : Char) : Reader Unit := do
  match ← peek? with
  | none => failHere (.unfinished .string)
  | some c =>
    skip
    if c = expected then pure () else failHere .unfinishedHexEscape

/-- Reads the code point after `\u`. -/
def codePoint : Reader Char := do
  let n ← hex4
  if 0xDC00 ≤ n ∧ n ≤ 0xDFFF then failHere .loneSurrogate
  else if n < 0xD800 ∨ 0xDBFF < n then return Char.ofNat n
  else
    pairByte '\\'
    pairByte 'u'
    let m ← hex4
    if m < 0xDC00 ∨ 0xDFFF < m then failHere .loneSurrogate
    else return Char.ofNat ((n - 0xD800) * 0x400 + (m - 0xDC00) + 0x10000)

/-- The character that a one-letter escape stands for. -/
def simpleEscape? (c : Char) : Option Char :=
  match c with
  | '"' => some '"'
  | '\\' => some '\\'
  | '/' => some '/'
  | 'b' => some '\x08'
  | 'f' => some '\x0c'
  | 'n' => some '\n'
  | 'r' => some '\r'
  | 't' => some '\t'
  | _ => none

/-- Reads the bytes of a string up to its closing quote; `acc` holds the bytes read, in reverse. -/
def stringBytes : (fuel : Nat) → (acc : List UInt8) → Reader (List UInt8)
  | 0, _ => failHere (.unfinished .string)
  | fuel + 1, acc => do
    match (← get).rest.head? with
    | none => failHere (.unfinished .string)
    | some b =>
      skip
      if b = 0x22 then return acc.reverse
      else if b = 0x5c then
        match ← next? with
        | none => failHere (.unfinished .string)
        | some 'u' => do
          let c ← codePoint
          stringBytes fuel (c.toString.toUTF8.toList.reverse ++ acc)
        | some e =>
          match simpleEscape? e with
          | some c => stringBytes fuel (c.toNat.toUInt8 :: acc)
          | none => failHere .invalidEscape
      else if b < 0x20 then failHere .controlCharacter
      else stringBytes fuel (b :: acc)

/-- Reads a string after its opening quote. -/
def stringBody : Reader String := do
  let bytes ← stringBytes (← fuel) []
  match String.fromUTF8? ⟨bytes.toArray⟩ with
  | some s => return s
  | none => failHere .invalidCodePoint

/-! ### Numbers -/

/-- The greatest unsigned 64-bit word. -/
def maxWord : Nat := 18446744073709551615

/-- Reads the longest run of decimal digits. -/
def digits : Reader (List Nat) := do
  let c ← get
  let ds := c.rest.takeWhile fun b => (Char.ofUInt8 b).isDigit
  set (c.advance ds.length)
  return ds.map fun b => b.toNat - '0'.toNat

/-- Appends digits to a significand as long as it stays a 64-bit word, and counts those that were
appended. -/
def absorb (significand : Nat) : List Nat → Nat × Nat
  | [] => (significand, 0)
  | d :: ds =>
    if 10 * significand + d ≤ maxWord then
      let (s, n) := absorb (10 * significand + d) ds
      (s, n + 1)
    else (significand, 0)

/-- The double of a decimal number; one that is not finite is a fault. -/
def double (negative : Bool) (significand : Nat) (exponent : Int) : Reader Number := do
  match Binary64.ofDecimal? negative significand exponent with
  | some x => return .float x
  | none => failHere .numberTooLarge

/-- The greatest exponent that is told apart from larger ones. -/
def maxExponent : Nat := 2147483647

/-- Reads the digits of an exponent after its first one; `none` when it is beyond `maxExponent`. -/
def exponentDigits : (fuel : Nat) → (exponent : Nat) → Reader (Option Nat)
  | 0, e => return some e
  | fuel + 1, e => do
    match ← peek? with
    | some c =>
      if c.isDigit then
        skip
        let e' := 10 * e + (c.toNat - '0'.toNat)
        if e' ≤ maxExponent then exponentDigits fuel e' else return none
      else return some e
    | none => return some e

/-- Reads an exponent, after its mark, of a number with the significand and exponent given. -/
def exponentPart (negative : Bool) (significand : Nat) (exponent : Int) : Reader Number := do
  let negativeExponent ← do
    match ← peek? with
    | some '+' => skip; pure false
    | some '-' => skip; pure true
    | _ => pure false
  match ← next? with
  | none => failHere (.unfinished .value)
  | some c =>
    if !c.isDigit then failHere .invalidNumber
    else
      match ← exponentDigits (← fuel) (c.toNat - '0'.toNat) with
      | some e =>
        double negative significand (if negativeExponent then exponent - e else exponent + e)
      | none =>
        if significand ≠ 0 ∧ !negativeExponent then failHere .numberTooLarge
        else
          let _ ← digits
          return .float (.zero negative)

/-- Reads what may follow the digits of a fraction or of a long integer. -/
def afterDigits (negative : Bool) (significand : Nat) (exponent : Int) : Reader Number := do
  match ← peek? with
  | some 'e' | some 'E' => skip; exponentPart negative significand exponent
  | _ => double negative significand exponent

/-- Reads a fraction after its point. -/
def fractionPart (negative : Bool) (significand : Nat) (exponent : Int) : Reader Number := do
  match ← digits with
  | [] =>
    match ← peek? with
    | some _ => failAhead .invalidNumber
    | none => failAhead (.unfinished .value)
  | ds =>
    let (s, n) := absorb significand ds
    afterDigits negative s (exponent - n)

/-- The number that an integer text denotes: an integer in the range of 64-bit words, and a double
otherwise. The text `-0` is the negative zero. -/
def wordOrDouble (negative : Bool) (n : Nat) : Reader Number :=
  if negative then
    if 0 < n ∧ n ≤ 9223372036854775808 then return .int (-n) else double true n 0
  else return .int n

/-- Reads a number after its sign. -/
def number (negative : Bool) : Reader Number := do
  match ← peek? with
  | none => failHere (.unfinished .value)
  | some '0' =>
    skip
    match ← peek? with
    | some '.' => skip; fractionPart negative 0 0
    | some 'e' | some 'E' => skip; exponentPart negative 0 0
    | some c => if c.isDigit then failAhead .invalidNumber else wordOrDouble negative 0
    | none => wordOrDouble negative 0
  | some _ =>
    match ← digits with
    | [] => skip; failHere .invalidNumber
    | ds =>
      let (s, n) := absorb 0 ds
      let dropped := ds.length - n
      match ← peek? with
      | some '.' => skip; fractionPart negative s dropped
      | some 'e' | some 'E' => skip; exponentPart negative s dropped
      | _ => if dropped = 0 then wordOrDouble negative s else double negative s dropped

/-! ### Containers -/

/-- Reads the items of an array after its opening bracket, up to and with the closing one. -/
def itemsUntilEnd {α : Type} (item : Reader α) :
    (fuel : Nat) → (acc : List α) → Reader (List α)
  | 0, _ => failAhead (.unfinished .list)
  | fuel + 1, acc => do
    match ← peekToken? with
    | none => failAhead (.unfinished .list)
    | some ']' => skip; return acc.reverse
    | some c =>
      if acc.isEmpty then itemsUntilEnd item fuel [← item]
      else if c = ',' then
        skip
        match ← peekToken? with
        | none => failAhead (.unfinished .value)
        | some ']' => failAhead .trailingComma
        | some _ => itemsUntilEnd item fuel ((← item) :: acc)
      else failAhead .expectedListEnd

/-- Reads the items of an array after its opening bracket. -/
def items {α : Type} (item : Reader α) : Reader (List α) := do
  itemsUntilEnd item (← fuel) []

/-- Reads the colon between a key and its value. -/
def colon : Reader Unit := do
  match ← peekToken? with
  | none => failAhead (.unfinished .object)
  | some ':' => skip
  | some _ => failAhead .expectedColon

/-- Reads the members of an object after its opening bracket, up to and with the closing one. After
each key `member` reads the rest of the member. -/
def membersUntilEnd {σ : Type} (member : σ → String → Reader σ) :
    (fuel : Nat) → (first : Bool) → (state : σ) → Reader σ
  | 0, _, _ => failAhead (.unfinished .object)
  | fuel + 1, first, state => do
    match ← peekToken? with
    | none => failAhead (.unfinished .object)
    | some '\x7d' => skip; return state
    | some c =>
      if first then
        if c = '"' then
          skip
          membersUntilEnd member fuel false (← member state (← stringBody))
        else failAhead .keyNotString
      else if c = ',' then
        skip
        match ← peekToken? with
        | none => failAhead (.unfinished .value)
        | some '"' =>
          skip
          membersUntilEnd member fuel false (← member state (← stringBody))
        | some '\x7d' => failAhead .trailingComma
        | some _ => failAhead .keyNotString
      else failAhead .expectedObjectEnd

/-- Reads the members of an object after its opening bracket. -/
def membersWith {σ : Type} (member : σ → String → Reader σ) (start : σ) : Reader σ := do
  membersUntilEnd member (← fuel) true start

/-- Reads the members of an object after its opening bracket; a repeated key keeps its first place
and takes its last value. -/
def members (item : Reader Json) : Reader Members :=
  membersWith (fun ms key => do colon; return Members.set ms key (← item)) []

/-- Reads a document in which at most `depth` containers are nested. -/
def value (depth : Nat) : Reader Json := do
  match ← peekToken? with
  | none => failAhead (.unfinished .value)
  | some 'n' => skip; word ['u', 'l', 'l']; return .null
  | some 't' => skip; word ['r', 'u', 'e']; return .bool true
  | some 'f' => skip; word ['a', 'l', 's', 'e']; return .bool false
  | some '-' => skip; return .num (← number true)
  | some '"' => skip; return .str (← stringBody)
  | some '[' =>
    match depth with
    | 0 => failAhead .tooDeep
    | depth + 1 => skip; return .arr (← items (value depth))
  | some '\x7b' =>
    match depth with
    | 0 => failAhead .tooDeep
    | depth + 1 => skip; return .obj (← members (value depth))
  | some c => if c.isDigit then return .num (← number false) else failAhead .expectedValue

/-- How deep the containers of a document may be nested. -/
def maxDepth : Nat := 127

/-- Refuses anything but blanks. -/
def finish : Reader Unit := do
  match ← peekToken? with
  | none => pure ()
  | some _ => failAhead .trailingCharacters

/-! ### Moving over values -/

/-- Moves over a string after its opening quote. -/
def skipString : (fuel : Nat) → Reader Unit
  | 0 => failHere (.unfinished .string)
  | fuel + 1 => do
    match ← peek? with
    | none => failHere (.unfinished .string)
    | some '"' => skip
    | some '\\' =>
      skip
      match ← next? with
      | none => failHere (.unfinished .string)
      | some 'u' => do
        let _ ← hex4
        skipString fuel
      | some e =>
        if (simpleEscape? e).isSome then skipString fuel else failHere .invalidEscape
    | some c => if c.toNat < 0x20 then failHere .controlCharacter else do skip; skipString fuel

/-- Moves over an exponent after its mark. -/
def skipExponent : Reader Unit := do
  match ← peek? with
  | some '+' | some '-' => skip
  | _ => pure ()
  match ← next? with
  | some c => if c.isDigit then do let _ ← digits else failHere .invalidNumber
  | none => failHere .invalidNumber

/-- Moves over a number after its sign. -/
def skipNumber : Reader Unit := do
  match ← next? with
  | some '0' =>
    match ← peek? with
    | some c => if c.isDigit then failAhead .invalidNumber else pure ()
    | none => pure ()
  | some c => if c.isDigit then do let _ ← digits else failHere .invalidNumber
  | none => failHere .invalidNumber
  match ← peek? with
  | some '.' =>
    skip
    match ← digits with
    | [] => failAhead .invalidNumber
    | _ =>
      match ← peek? with
      | some 'e' | some 'E' => skip; skipExponent
      | _ => pure ()
  | some 'e' | some 'E' => skip; skipExponent
  | _ => pure ()

/-- Moves over the closing brackets that follow a value, in the containers `enclosing` (`true` for
an object), and stops at the next value to move over, if there is one. `afterValue` tells whether a
value was just passed. -/
def skipToValue : (fuel : Nat) → (afterValue : Bool) → (enclosing : List Bool) →
    Reader (List Bool)
  | 0, _, enclosing => return enclosing
  | _, _, [] => return []
  | fuel + 1, afterValue, isObject :: outer => do
    let keyThenColon : Reader (List Bool) := do
      if isObject then
        match ← peekToken? with
        | some '"' => skip
        | some _ => failAhead .keyNotString
        | none => failAhead (.unfinished .object)
        skipString (← Reader.fuel)
        colon
      return isObject :: outer
    match ← peekToken? with
    | none => failAhead (.unfinished (if isObject then .object else .list))
    | some c =>
      if c = ',' ∧ afterValue then
        skip
        keyThenColon
      else if c = (if isObject then '\x7d' else ']') then
        skip
        skipToValue fuel true outer
      else if afterValue then
        failAhead (if isObject then .expectedObjectEnd else .expectedListEnd)
      else keyThenColon

/-- Moves over values until the outermost one has ended. -/
def skipValues : (fuel : Nat) → (enclosing : List Bool) → Reader Unit
  | 0, _ => pure ()
  | fuel + 1, enclosing => do
    let opened : Option Bool ← do
      match ← peekToken? with
      | none => failAhead (.unfinished .value)
      | some 'n' => skip; word ['u', 'l', 'l']; pure none
      | some 't' => skip; word ['r', 'u', 'e']; pure none
      | some 'f' => skip; word ['a', 'l', 's', 'e']; pure none
      | some '-' => skip; skipNumber; pure none
      | some '"' => skip; skipString (← Reader.fuel); pure none
      | some '[' => skip; pure (some false)
      | some '\x7b' => skip; pure (some true)
      | some c => if c.isDigit then do skipNumber; pure none else failAhead .expectedValue
    let enclosing ← match opened with
      | some isObject => skipToValue (← Reader.fuel) false (isObject :: enclosing)
      | none => skipToValue (← Reader.fuel) true enclosing
    match enclosing with
    | [] => pure ()
    | _ => skipValues fuel enclosing

/-- Moves over a value without looking at it. -/
def skipValue : Reader Unit := do skipValues (← fuel) []

end Reader

/-- Runs a reader over a whole text. -/
def readAll {α : Type} (reader : Reader α) (bytes : List UInt8) : Except Defect α :=
  (do let v ← reader; Reader.finish; return v : Reader α).run' (Cursor.ofBytes bytes)

/-- The document that a text in bytes holds. -/
def parseBytes (bytes : List UInt8) : Except Defect Json :=
  readAll (Reader.value Reader.maxDepth) bytes

/-- The document that a text holds. -/
def parse (text : String) : Except Defect Json := parseBytes text.toUTF8.toList

end Catalog.Json
