import Catalog.Text.Blank
import Catalog.Url.Host
import Catalog.Url.Path

/-!
# URLs

Absolute URLs as browsers read them. The schemes of the web are special: backslashes count as
slashes, any number of slashes may stand before the host, and there must be a host.

## Main definitions

* `Url` — a URL in its parts.
* `Url.parse` — the URL that a text denotes, or why it denotes none.
* `Url.text` — the text of a URL.
-/

namespace Catalog

open Text

/-- What stands after the host of a URL. -/
inductive Url.Path where
  /-- A path of escaped segments. -/
  | segments (list : List (List Char))
  /-- A text without structure. -/
  | opaqueText (text : List Char)
deriving DecidableEq, Repr, Inhabited

/-- A URL in its parts. All parts are escaped. -/
structure Url where
  scheme : String
  user : List Char
  password : Option (List Char)
  host : Option Url.Host
  /-- The port, unless it is the one of the scheme. -/
  port : Option Nat
  path : Url.Path
  query : Option (List Char)
  fragment : Option (List Char)
deriving DecidableEq, Repr, Inhabited

namespace Url

/-! ### Schemes -/

/-- The port that a scheme implies. -/
def defaultPort? (scheme : String) : Option Nat :=
  if scheme = "http" || scheme = "ws" then some 80
  else if scheme = "https" || scheme = "wss" then some 443
  else if scheme = "ftp" then some 21
  else none

/-- Whether a scheme is one of the web. -/
def isSpecial (scheme : String) : Bool := (defaultPort? scheme).isSome || scheme == "file"

/-- A character that a scheme may contain after its first letter. -/
def isSchemeChar (c : Char) : Bool := c.isAlphanum || ['+', '-', '.'].contains c

/-- The scheme of a text, in lowercase, and the text after its colon. -/
def cutScheme (cs : List Char) : Option (String × List Char) := do
  let (scheme, rest) ← cutFirst ':' cs
  if scheme.head?.any Char.isAlpha && scheme.all isSchemeChar then
    return (String.ofList (scheme.map Char.toLower), rest)
  else none

/-! ### Authorities -/

/-- The character that ends an authority. -/
def endsAuthority (special : Bool) (c : Char) : Bool :=
  ['/', '?', '#'].contains c || (special && c == '\\')

/-- The name of a user, and the password. -/
structure Credentials where
  user : List Char
  password : Option (List Char)
deriving DecidableEq, Repr, Inhabited

/-- The credentials before the last at sign of an authority; an empty password counts as none. -/
def readCredentials (cs : List Char) : Credentials :=
  match cutFirst ':' cs with
  | none => ⟨percentEncode escapedInUser cs, none⟩
  | some (user, []) => ⟨percentEncode escapedInUser user, none⟩
  | some (user, password) =>
    ⟨percentEncode escapedInUser user, some (percentEncode escapedInUser password)⟩

/-- The credentials of an authority and what follows them. An at sign must not stand alone before
the rest of a URL. -/
def cutCredentials (authority rest : List Char) : Except Fault (Credentials × List Char) :=
  match cutLast '@' authority with
  | none => .ok (⟨[], none⟩, authority)
  | some (front, host) =>
    if front.isEmpty && host.isEmpty && !rest.isEmpty then .error .emptyHost
    else .ok (readCredentials front, host)

/-- A text up to the colon before a port. A colon in brackets belongs to an address. -/
def spanHost : (inBrackets : Bool) → List Char → List Char × List Char
  | _, [] => ([], [])
  | inBrackets, c :: cs =>
    if c = ':' && !inBrackets then ([], c :: cs)
    else
      let (host, rest) := spanHost (c == '[' || (inBrackets && c != ']')) cs
      (c :: host, rest)

/-- The port that a text after a host denotes; an empty one, or the one of the scheme, is left out.
A backslash ends it, and is left with what follows. -/
def readPort (scheme : String) : List Char → Except Fault (Option Nat × List Char)
  | [] => .ok (none, [])
  | _ :: cs =>
    let digits := cs.takeWhile (· != '\\')
    let rest := cs.dropWhile (· != '\\')
    if !digits.all Char.isDigit then .error .invalidPort
    else
      let port := numeral 10 (digits.map fun c => c.toNat - '0'.toNat)
      if 65535 < port then .error .invalidPort
      else if digits.isEmpty || defaultPort? scheme = some port then .ok (none, rest)
      else .ok (some port, rest)

/-- The host of a URL. A web address needs one; elsewhere it may be empty, but then nothing else may
stand with it. -/
def readHost (special : Bool) (credentials : Credentials) (cs : List Char) (hasPort : Bool) :
    Except Fault (Option Host) :=
  if special then
    if cs.isEmpty then .error .emptyHost else (Host.parse cs).map some
  else if cs.isEmpty then
    if hasPort || credentials ≠ ⟨[], none⟩ then .error .emptyHost else .ok (some (.name ""))
  else (Host.parseOpaque cs).map some

/-! ### The parts after the authority -/

/-- The text before a fragment, and the fragment. -/
def cutFragment (cs : List Char) : List Char × Option (List Char) :=
  match cutFirst '#' cs with
  | some (front, fragment) => (front, some (percentEncode escapedInFragment fragment))
  | none => (cs, none)

/-- The text before a query, and the query. -/
def cutQuery (special : Bool) (cs : List Char) : List Char × Option (List Char) :=
  match cutFirst '?' cs with
  | some (front, query) => (front, some (percentEncode (escapedInQuery special) query))
  | none => (cs, none)

/-- The path after a host. A web address has at least an empty segment. -/
def readPath (special : Bool) (cs : List Char) : Path :=
  match cs with
  | [] => .segments (if special then [[]] else [])
  | c :: rest =>
    if c = '/' || (special && c == '\\') then .segments (pathSegments special rest)
    else .segments (pathSegments special (c :: rest))

/-- A URL with an authority, given the text after its slashes. -/
def parseAuthority (scheme : String) (cs : List Char) : Except Fault Url := do
  let special := isSpecial scheme
  let authority := cs.takeWhile fun c => !endsAuthority special c
  let rest := cs.dropWhile fun c => !endsAuthority special c
  let (credentials, hostAndPort) ← cutCredentials authority rest
  let (host, afterHost) := spanHost false hostAndPort
  let host ← readHost special credentials host (!afterHost.isEmpty)
  let (port, afterPort) ← readPort scheme afterHost
  let (rest, fragment) := cutFragment (afterPort ++ rest)
  let (path, query) := cutQuery special rest
  return ⟨scheme, credentials.user, credentials.password, host, port, readPath special path, query,
    fragment⟩

/-- A URL without an authority. -/
def withoutAuthority (scheme : String) (path : List Char → Path) (cs : List Char) : Url :=
  let (rest, fragment) := cutFragment cs
  let (front, query) := cutQuery (isSpecial scheme) rest
  ⟨scheme, [], none, none, none, path front, query, fragment⟩

/-! ### Files -/

/-- Whether a character is a slash in the URL of a file. -/
def isFileSlash (c : Char) : Bool := c == '/' || c == '\\'

/-- A text without a slash at its front. -/
def dropSlash : List Char → List Char
  | c :: cs => if isFileSlash c then cs else c :: cs
  | [] => []

/-- Whether a segment of a path is a drive and nothing else. -/
def isDrive : List Char → Bool
  | [letter, mark] => letter.isAlpha && isDriveMark mark
  | _ => false

/-- The segments of a path with a colon after the name of the drive that it starts with. -/
def markDrive : List (List Char) → List (List Char)
  | [letter, mark] :: rest =>
    if isDrive [letter, mark] then [letter, ':'] :: rest else [letter, mark] :: rest
  | segments => segments

/-- The path of a file, without empty segments at its front. -/
def readFilePath (cs : List Char) : Path :=
  match (markDrive (pathSegments true cs)).dropWhile List.isEmpty with
  | [] => .segments [[]]
  | s :: ss => .segments (s :: ss)

/-- Whether a path starts with a drive. -/
def Path.startsWithDrive : Path → Bool
  | segments (s :: _) => isDrive s
  | _ => false

/-- The host of a file; the local one is left out. -/
def readFileHost (cs : List Char) : Except Fault (Option Host) :=
  if cs.isEmpty then .ok none
  else (Host.parse cs).map fun h => if h = .name "localhost" then none else some h

/-- The URL of a file, given the text after the two slashes before its host. A drive is no host, and
a path that starts with one has none. -/
def parseFileWithHost (cs : List Char) : Except Fault Url := do
  let name := cs.takeWhile fun c => !endsAuthority true c
  if isDrive name then return withoutAuthority "file" readFilePath cs
  let path := cs.dropWhile fun c => !endsAuthority true c
  match ← readFileHost name with
  | none => return withoutAuthority "file" readFilePath path
  | some host =>
    let url := withoutAuthority "file" readFilePath (dropSlash path)
    return if url.path.startsWithDrive then url else { url with host := some host }

/-- The URL of a file, given the text after its scheme. -/
def parseFile (cs : List Char) : Except Fault Url :=
  match cs with
  | a :: b :: rest =>
    if isFileSlash a && isFileSlash b then parseFileWithHost rest
    else .ok (withoutAuthority "file" readFilePath (dropSlash cs))
  | _ => .ok (withoutAuthority "file" readFilePath (dropSlash cs))

/-! ### Reading and writing -/

/-- A text without the blanks and controls at its ends and without tabs and line ends inside. -/
def cleaned (text : String) : List Char :=
  (stripChars (fun c => c.toNat ≤ 0x20) text.toList).filter fun c =>
    !(['\t', '\n', '\r'].contains c)

/-- The URL that a text denotes. -/
def parse (text : String) : Except Fault Url :=
  match cutScheme (cleaned text) with
  | none => .error .noBase
  | some (scheme, rest) =>
    if scheme = "file" then parseFile rest
    else if isSpecial scheme then
      parseAuthority scheme (rest.dropWhile fun c => c == '/' || c == '\\')
    else
      match rest with
      | '/' :: '/' :: rest => parseAuthority scheme rest
      | '/' :: rest =>
        .ok (withoutAuthority scheme (fun cs => .segments (pathSegments false cs)) rest)
      | rest =>
        .ok (withoutAuthority scheme
          (fun cs => .opaqueText (percentEncode escapedEverywhere cs)) rest)

/-- The text of credentials, with an at sign at its end. -/
def credentialsText (user : List Char) (password : Option (List Char)) : List Char :=
  match user, password with
  | [], none => []
  | user, none => user ++ ['@']
  | user, some password => user ++ ':' :: password ++ ['@']

/-- The text of a path. -/
def Path.text : Path → List Char
  | segments list => segmentsText list
  | opaqueText text => text

/-- Whether the text of a path starts with two slashes, as if a host followed. -/
def Path.looksLikeHost : Path → Bool
  | segments ([] :: _ :: _) => true
  | _ => false

/-- The text of a URL. -/
def text (u : Url) : String :=
  let authority : List Char :=
    match u.host with
    | some host => "//".toList ++ credentialsText u.user u.password ++ host.text.toList
        ++ (match u.port with
          | some port => ':' :: (toString port).toList
          | none => [])
    | none =>
      if u.scheme = "file" then "//".toList
      else if u.path.looksLikeHost then "/.".toList
      else []
  String.ofList <| u.scheme.toList ++ ':' :: authority ++ u.path.text
    ++ (match u.query with
      | some query => '?' :: query
      | none => [])
    ++ (match u.fragment with
      | some fragment => '#' :: fragment
      | none => [])

/-- The host of a URL as a text, empty if there is none. -/
def hostText (u : Url) : String := (u.host.map Host.text).getD ""

/-- The URL with parameters added to its query. -/
def addParameters (u : Url) (parameters : List (String × String)) : Url :=
  let added := (parameters.map fun (k, v) => formEncode k ++ '=' :: formEncode v)
  let all := (u.query.filter fun q => !q.isEmpty).toList ++ added
  if all.isEmpty then { u with query := none }
  else { u with query := some (List.intercalate ['&'] all) }

/-- The credentials that a URL names, as they are meant. There are none when the name of the user
cannot be read, and a password that cannot be read is left out. -/
def credentials? (u : Url) : Option Credentials :=
  match textOf? (percentDecode u.user) with
  | none => none
  | some user =>
    let password := u.password.bind fun cs => textOf? (percentDecode cs)
    if user.isEmpty && password.isNone then none else some ⟨user, password⟩

/-- The URL without the credentials that it names. They stay when they cannot be read. -/
def withoutCredentials (u : Url) : Url :=
  if u.credentials?.isSome then { u with user := [], password := none } else u

end Url

end Catalog
