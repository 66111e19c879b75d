/-!
# UTF-8

Texts as bytes, and bytes read as a text, where every sequence of bytes that cannot be read becomes
a replacement character. A sequence ends before the first byte that cannot continue it.

## Main definitions

* `utf8` — the bytes of a text.
* `decodeLossy` — the text of bytes.
-/

namespace Catalog.Text

/-- The bytes of characters, one after another. -/
def utf8 (cs : List Char) : List UInt8 := cs.flatMap String.utf8EncodeChar

/-- The character that stands for bytes that cannot be read. -/
def replacement : Char := '\ufffd'

/-- What the next byte of a character must be. -/
structure Continuation where
  /-- The bits that were read. -/
  bits : Nat
  /-- How many bytes follow the next one. -/
  more : Nat
  least : Nat
  greatest : Nat
deriving DecidableEq, Repr, Inhabited

/-- What the first byte of a character tells. -/
inductive Lead where
  | char (c : Char)
  | incomplete (k : Continuation)
  | invalid
deriving DecidableEq, Repr, Inhabited

/-- Reads the first byte of a character. The bounds of the second byte leave out characters that
have a shorter form, surrogates, and what is beyond the last character. -/
def lead (b : UInt8) : Lead :=
  let n := b.toNat
  if n < 0x80 then .char (Char.ofNat n)
  else if n < 0xc2 then .invalid
  else if n < 0xe0 then .incomplete ⟨n - 0xc0, 0, 0x80, 0xbf⟩
  else if n < 0xf0 then
    .incomplete ⟨n - 0xe0, 1, if n = 0xe0 then 0xa0 else 0x80, if n = 0xed then 0x9f else 0xbf⟩
  else if n < 0xf5 then
    .incomplete ⟨n - 0xf0, 2, if n = 0xf0 then 0x90 else 0x80, if n = 0xf4 then 0x8f else 0xbf⟩
  else .invalid

/-- The text of bytes, the first of which may continue a character. -/
def decodeAfter : Option Continuation → List UInt8 → List Char
  | none, [] => []
  | some _, [] => [replacement]
  | state, b :: bs =>
    let fresh : List Char :=
      match lead b with
      | .char c => c :: decodeAfter none bs
      | .incomplete k => decodeAfter (some k) bs
      | .invalid => replacement :: decodeAfter none bs
    match state with
    | none => fresh
    | some k =>
      if k.least ≤ b.toNat && b.toNat ≤ k.greatest then
        let bits := 64 * k.bits + (b.toNat - 0x80)
        match k.more with
        | 0 => Char.ofNat bits :: decodeAfter none bs
        | more + 1 => decodeAfter (some ⟨bits, more, 0x80, 0xbf⟩) bs
      else replacement :: fresh

/-- The text of bytes. -/
def decodeLossy (bytes : List UInt8) : List Char := decodeAfter none bytes

end Catalog.Text
