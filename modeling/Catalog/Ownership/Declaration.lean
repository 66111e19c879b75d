import Catalog.Error
import Catalog.Image.Manifest
import Catalog.Text.Alphanumeric

/-!
# Declarations of ownership

How an artifact names the server it belongs to: a README holds a marker followed by the name of the
server, an image has a label, and a package manifest has a member of its own.

## Main definitions

* `declaresOwner` — whether a text names a server.
* `checkLabel` — whether an image names a server.
* `checkName` — whether a package manifest names a server.
-/

namespace Catalog

open Text

/-- A character that continues a server name. -/
def isNameChar (c : Char) : Bool :=
  isAlphanumeric c || c == '-' || c == '_' || c == '.' || c == '/'

/-- Whether some occurrence of a text is not followed by a character that continues a name. The
occurrences are those found from left to right, each after the end of the one before; the next
`skip` characters belong to the last one found. -/
def occursAsName (needle : List Char) : (skip : Nat) → List Char → Bool
  | _, [] => needle.isEmpty
  | skip + 1, _ :: cs => occursAsName needle skip cs
  | 0, c :: cs =>
    match afterFront? needle (c :: cs) with
    | some rest => !rest.head?.any isNameChar || occursAsName needle (needle.length - 1) cs
    | none => occursAsName needle 0 cs

/-- Whether a text names a server after the ownership marker. The name must end there, so that a
longer name does not count. -/
def declaresOwner (text owner : String) : Bool :=
  occursAsName (ownershipMarker ++ " " ++ owner).toList 0 text.toList

/-- Refuses an image whose ownership label does not name the server. -/
def checkLabel (identifier : String) (config : ImageConfig) (owner : String) : Except Error Unit :=
  match config.label? ownershipLabel with
  | none => .error (.ownership (.unlabelled identifier owner))
  | some actual =>
    if actual = owner then .ok () else .error (.ownership (.otherLabel owner actual))

/-- Refuses a package manifest that does not name the server. -/
def checkName (identifier : String) (name : Option String) (owner : String) : Except Error Unit :=
  match name with
  | none => .error (.ownership (.unnamed identifier owner))
  | some actual =>
    if actual.isEmpty then .error (.ownership (.unnamed identifier owner))
    else if actual = owner then .ok ()
    else .error (.ownership (.otherName owner actual))

/-- Refuses a README that does not name the server. -/
def checkReadme (registry : RegistryType) (identifier readme owner : String) : Except Error Unit :=
  if declaresOwner readme owner then .ok ()
  else .error (.ownership (.silentReadme registry identifier owner))

end Catalog
