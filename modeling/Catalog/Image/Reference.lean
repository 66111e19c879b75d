import Catalog.Text.Blank
import Catalog.Text.Cut
import Catalog.Text.Digits

/-!
# Image references

The grammar of container image references,

    [host '/'] component ('/' component)* [':' tag] ['@' digest]

and their normal form: the registry is never empty, all names of the Docker Hub become `docker.io`,
and an image of one component there belongs to `library`. Whether a name has a host, and whether it
has a tag or a digest, can be told from its characters alone, before it is known to be a reference.

## Main definitions

* `ImageName.namesHost` — the part of a name before its first slash is a host.
* `ImageName.isBare` — a name has neither a tag nor a digest.
* `ImageReference` — a reference in normal form.
* `ImageReference.parse` — the reference that a text denotes, or why it denotes none.
* `ImageReference.text` — the text of a reference, with the tag that is assumed when none is given.
-/

namespace Catalog

open Text

/-! ### Names -/

namespace ImageName

/-- Whether a first component of a name is a registry host: it has a dot or a port, or it is the
local host. -/
def looksLikeHost (component : List Char) : Bool :=
  component.contains '.' || component.contains ':' || component == "localhost".toList

/-- Whether the part of a name before its first slash is a registry host. -/
def namesHost (name : String) : Bool :=
  match cutFirst '/' name.toList with
  | some (first, _) => looksLikeHost first
  | none => false

/-- Whether a name carries neither a tag nor a digest. A colon counts only after the last slash:
one before it stands between a host and its port. -/
def isBare (name : String) : Bool :=
  !occursIn "@sha256:".toList name.toList && !(lastField '/' name.toList).contains ':'

end ImageName

/-! ### References -/

/-- A container image reference in normal form. -/
structure ImageReference where
  registry : String
  repository : String
  tag : Option String
  digest : Option String
deriving DecidableEq, Repr, Inhabited

namespace ImageReference

/-- The registry of an image name without a host. -/
def defaultRegistry : String := "docker.io"

/-- The tag of an image name without a tag or digest. -/
def defaultTag : String := "latest"

/-- The hosts that all stand for the default registry. -/
def hubAliases : List String := ["docker.io", "index.docker.io", "registry-1.docker.io"]

/-- Why a text is no image reference. -/
inductive Fault where
  | empty
  | blank
  | digest
  | tag
  | host
  | noRepository
  | component (text : String)
deriving DecidableEq, Repr, Inhabited

/-- The wording of a fault. -/
def Fault.message : Fault → String
  | empty => "reference is empty"
  | blank => "reference contains whitespace"
  | digest => "digest must be 'sha256:' followed by 64 lowercase hex"
  | tag => "invalid tag"
  | host => "invalid registry host"
  | noRepository => "repository is empty"
  | component text =>
    "invalid repository component '" ++ text
      ++ "' (must be lowercase alphanumerics with separators)"

/-! ### Parts of a reference -/

/-- A lowercase ASCII letter or a digit. -/
def isLowerAlnum (c : Char) : Bool := c.isLower || c.isDigit

/-- Whether a text is a digest. -/
def isDigest (cs : List Char) : Bool :=
  match afterFront? "sha256:".toList cs with
  | some hash => isHash hash
  | none => false

/-- A character of a tag. -/
def isTagChar (c : Char) : Bool := c.isAlphanum || c == '_' || c == '.' || c == '-'

/-- Whether a text is a tag: up to 128 characters of which the first is no punctuation but `_`. -/
def isTag : List Char → Bool
  | [] => false
  | c :: cs => (c.isAlphanum || c == '_') && cs.length ≤ 127 && cs.all isTagChar

/-- Where a reader of a path component stands. -/
inductive ComponentState where
  /-- A letter or digit must follow. -/
  | start
  /-- After a letter or digit; the component may end. -/
  | word
  /-- After a single underscore. -/
  | underscore
  /-- After hyphens. -/
  | hyphens
deriving DecidableEq, Repr, Inhabited

/-- Whether the rest of a path component is well formed. Words are separated by a dot, one or two
underscores or any number of hyphens. -/
def isComponentFrom : ComponentState → List Char → Bool
  | .word, [] => true
  | _, [] => false
  | s, c :: cs =>
    if isLowerAlnum c then isComponentFrom .word cs
    else
      match s, c with
      | .word, '.' => isComponentFrom .start cs
      | .word, '_' => isComponentFrom .underscore cs
      | .underscore, '_' => isComponentFrom .start cs
      | .word, '-' | .hyphens, '-' => isComponentFrom .hyphens cs
      | _, _ => false

/-- Whether a text is a path component. -/
def isComponent (cs : List Char) : Bool := isComponentFrom .start cs

/-- Whether a text is a label of a host name: letters, digits and inner hyphens. -/
def isLabel (cs : List Char) : Bool :=
  cs.all (fun c => c.isAlphanum || c == '-')
    && (cs.head?.any Char.isAlphanum) && (cs.getLast?.any Char.isAlphanum)

/-- Whether a text is a host name with or without a port. -/
def isHost (cs : List Char) : Bool :=
  match cutFirst ':' cs with
  | none => (fields '.' cs).all isLabel
  | some (name, port) =>
    (fields '.' name).all isLabel && !port.isEmpty && port.all Char.isDigit

/-- The normal form of a registry host: lowercase, and one name for the Docker Hub. -/
def normalizeRegistry (host : List Char) : String :=
  let lower := String.ofList (host.map Char.toLower)
  if hubAliases.contains lower then defaultRegistry else lower

/-! ### Parsing -/

/-- The part before the digest, and the digest. -/
def splitDigest (cs : List Char) : Except Fault (List Char × Option (List Char)) :=
  match cutFirst '@' cs with
  | none => .ok (cs, none)
  | some (front, digest) => if isDigest digest then .ok (front, some digest) else .error .digest

/-- The name and the tag of a text without digest. The tag starts after the last colon, unless a
slash follows that colon. -/
def splitTag (cs : List Char) : Except Fault (List Char × Option (List Char)) :=
  match cutLast ':' cs with
  | none => .ok (cs, none)
  | some (name, tag) =>
    if tag.contains '/' then .ok (cs, none)
    else if isTag tag then .ok (name, some tag)
    else .error .tag

/-- The registry host and the repository of a name. -/
def splitHost (name : List Char) : List Char × List Char :=
  match cutFirst '/' name with
  | some (first, rest) =>
    if ImageName.looksLikeHost first then (first, rest) else (defaultRegistry.toList, name)
  | none => (defaultRegistry.toList, name)

/-- The repository of a registry: on the default one, a single component belongs to `library`. -/
def qualifyRepository (registry : String) (repository : List Char) : String :=
  if registry = defaultRegistry ∧ '/' ∉ repository then
    "library/" ++ String.ofList repository
  else String.ofList repository

/-- Refuses a repository that is not made of path components. -/
def checkRepository (repository : List Char) : Except Fault Unit :=
  if repository.isEmpty then .error .noRepository
  else
    match (fields '/' repository).find? fun c => !isComponent c with
    | some c => .error (.component (String.ofList c))
    | none => .ok ()

/-- The reference that a text denotes. -/
def parse (text : String) : Except Fault ImageReference := do
  let cs := text.toList
  if cs.isEmpty then throw .empty
  if cs.any isBlank then throw .blank
  let (front, digest) ← splitDigest cs
  let (name, tag) ← splitTag front
  let (host, repository) := splitHost name
  if !isHost host then throw .host
  let registry := normalizeRegistry host
  checkRepository repository
  return {
    registry
    repository := qualifyRepository registry repository
    tag := tag.map String.ofList
    digest := digest.map String.ofList }

/-! ### Using a reference -/

/-- The tag to resolve: the one given, the default one when no digest is given either. -/
def tagOrDefault (r : ImageReference) : Option String :=
  match r.tag, r.digest with
  | some tag, _ => some tag
  | none, none => some defaultTag
  | none, some _ => none

/-- What names the manifest of the image: the digest, else the tag, else the default tag. -/
def manifestName (r : ImageReference) : String :=
  (r.digest.or r.tag).getD defaultTag

/-- Whether the image is on the Docker Hub. -/
def isOnHub (r : ImageReference) : Bool := r.registry == defaultRegistry

/-- The registry host without its port. -/
def hostname (r : ImageReference) : String :=
  match cutFirst ':' r.registry.toList with
  | some (name, _) => String.ofList name
  | none => r.registry

/-- The text of a reference. -/
def text (r : ImageReference) : String :=
  r.registry ++ "/" ++ r.repository
    ++ (match r.tagOrDefault with
      | some tag => ":" ++ tag
      | none => "")
    ++ (match r.digest with
      | some digest => "@" ++ digest
      | none => "")

end ImageReference

end Catalog
