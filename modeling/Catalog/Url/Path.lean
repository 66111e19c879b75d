import Catalog.Url.Percent

/-!
# Paths of URLs

The path of a URL is a list of segments, escaped. A segment of one dot stands for nothing, and one
of two dots takes back the segment before it, unless that names a drive.

## Main definitions

* `normalizeSegments` — a path without segments of dots.
* `pathSegments` — the segments of the text of a path.
-/

namespace Catalog.Url

open Text

/-- The dots of a segment, in any of their spellings. -/
def dots? : List Char → Option Nat
  | [] => some 0
  | '.' :: cs | '%' :: '2' :: 'e' :: cs | '%' :: '2' :: 'E' :: cs => (dots? cs).map (· + 1)
  | _ :: _ => none

/-- Whether a segment stands for nothing. -/
def isSingleDot (segment : List Char) : Bool := dots? segment == some 1

/-- Whether a segment takes back the one before it. -/
def isDoubleDot (segment : List Char) : Bool := dots? segment == some 2

/-- Whether a character marks a letter as the name of a drive. -/
def isDriveMark (c : Char) : Bool := c == ':' || c == '|'

/-- Whether a segment names a drive, alone or before a backslash. -/
def namesDrive : List Char → Bool
  | letter :: mark :: rest =>
    letter.isAlpha && isDriveMark mark && (rest.isEmpty || rest.head? == some '\\')
  | _ => false

/-- Takes back the last of the segments, which are in reverse, unless it names a drive. -/
def takeBack : List (List Char) → List (List Char)
  | [] => []
  | s :: done => if namesDrive s then s :: done else done

/-- The segments `done` in reverse order, followed by others, without segments of dots. Where a path
ends in dots, it ends in an empty segment. -/
def normalizeAfter (done : List (List Char)) : List (List Char) → List (List Char)
  | [] => done.reverse
  | s :: rest =>
    let done :=
      if isDoubleDot s then takeBack done
      else if isSingleDot s then done
      else s :: done
    if rest.isEmpty && (isDoubleDot s || isSingleDot s) then normalizeAfter ([] :: done) rest
    else normalizeAfter done rest

/-- A path without segments of dots. -/
def normalizeSegments (segments : List (List Char)) : List (List Char) := normalizeAfter [] segments

/-- The parts of a text between slashes; in a web address a backslash counts as a slash. -/
def splitSlashes (special : Bool) (cs : List Char) : List (List Char) :=
  fields '/' (if special then cs.map fun c => if c == '\\' then '/' else c else cs)

/-- The segments of the text of a path, without the slash it starts with. -/
def pathSegments (special : Bool) (cs : List Char) : List (List Char) :=
  normalizeSegments ((splitSlashes special cs).map (percentEncode escapedInPath))

/-- The text of a path with the segments given. -/
def segmentsText (segments : List (List Char)) : List Char := segments.flatMap ('/' :: ·)

end Catalog.Url
