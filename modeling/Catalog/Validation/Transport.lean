import Catalog.Text.Blank
import Catalog.Text.Cut
import Catalog.Validation.Finding

/-!
# Checking transports

A transport over the network needs a URL of the web. Each placeholder of the URL should be filled by
a declared variable, and each declared variable should fill a placeholder.

## Main definitions

* `isTransportUrl` — the URLs that are accepted.
* `placeholders` — the names between braces in a URL.
* `Transport.findings` — what is wrong with a transport.
-/

namespace Catalog

open Text

/-- Whether a text is a URL of the web: a scheme and at least one character, none of them blank.
Placeholders may stand anywhere. -/
def isTransportUrl (url : String) : Bool :=
  let accepts (scheme : String) : Bool :=
    match afterFront? scheme.toList url.toList with
    | some rest => !rest.isEmpty && !rest.any isBlank
    | none => false
  accepts "http://" || accepts "https://"

/-- Refuses a text that is no transport URL. -/
def checkTransportUrl (url : String) : Except Error Unit :=
  if isTransportUrl url then .ok () else .error (.transportUrl url)

/-- The names between braces in the rest of a text, in order. `inside` holds, in reverse, what was
read since an opening brace. A name is not empty and has neither braces nor blanks. -/
def placeholdersFrom : (inside : Option (List Char)) → List Char → List String
  | _, [] => []
  | none, c :: cs => if c = '\x7b' then placeholdersFrom (some []) cs else placeholdersFrom none cs
  | some name, c :: cs =>
    if c = '\x7b' then placeholdersFrom (some []) cs
    else if c = '\x7d' then
      if name.isEmpty then placeholdersFrom none cs
      else String.ofList name.reverse :: placeholdersFrom none cs
    else if isBlank c then placeholdersFrom none cs
    else placeholdersFrom (some (c :: name)) cs

/-- The names between braces in a URL, each once, in the order of their first occurrence. -/
def placeholders (url : String) : List String := (placeholdersFrom none url.toList).eraseDups

namespace Transport

/-- Findings on the placeholders that no variable fills. -/
def undeclaredFindings (strict : Bool) (location : String) (names declared : List String) :
    Findings :=
  (names.filter fun n => !declared.contains n).map fun n =>
    ⟨if strict then .error else .warning, location ++ ".url", .undeclaredVariable n location⟩

/-- Findings on the variables that fill no placeholder. -/
def unusedFindings (location : String) (names declared : List String) : Findings :=
  (declared.filter fun n => !names.contains n).map fun n =>
    ⟨.warning, location ++ ".variables." ++ n, .unusedVariable n⟩

/-- What is wrong with the URL of a transport over the network. -/
def urlFindings (t : Transport) (strict : Bool) (location url : String) : Findings :=
  (if isTransportUrl url then [] else Findings.error (location ++ ".url") (.badUrl url))
    ++ undeclaredFindings strict location (placeholders url) t.variableNames
    ++ unusedFindings location (placeholders url) t.variableNames

/-- What is wrong with a transport at a place of a document. If `strict`, an undeclared variable is
an error. -/
def findings (t : Transport) (strict : Bool) (location : String) : Findings :=
  match t.kind.isNetwork, t.url with
  | false, some _ => Findings.error (location ++ ".url") .unexpectedUrl
  | false, none => []
  | true, none => Findings.error (location ++ ".url") (.missingUrl t.kind)
  | true, some url => t.urlFindings strict location url

end Transport

end Catalog
