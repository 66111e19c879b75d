import Catalog.Error
import Catalog.Image.Reference
import Catalog.Text.Cut
import Catalog.Text.Lowercase

/-!
# Host policies

Which registries images may come from. A policy is open, or it lists host patterns; in a pattern
`*` stands for one or more characters of one label. A pattern matches a host with its port, or the
host without it.

## Main definitions

* `HostPattern` — a pattern, in lowercase.
* `HostPattern.covers` — whether a host matches it.
* `HostPolicy` — a policy.
* `HostPolicy.allows` — whether a host may be contacted.
-/

namespace Catalog

open Text

/-! ### Patterns -/

/-- A pattern of host names. -/
structure HostPattern where
  /-- The pattern without blanks around it, in lowercase. -/
  source : String
deriving DecidableEq, Repr, Inhabited

namespace HostPattern

/-- A character that `*` may stand for. -/
def isLabelChar (c : Char) : Bool := c.isLower || c.isDigit || c == '-'

/-- A character that a pattern may begin or end with. -/
def isEdgeChar (c : Char) : Bool := c.isLower || c.isDigit || c == '*'

/-- Whether a text is the host part of a pattern. -/
def isHostPart (cs : List Char) : Bool :=
  cs.all (fun c => isEdgeChar c || c == '.' || c == '-')
    && cs.head?.any isEdgeChar && cs.getLast?.any isEdgeChar

/-- Whether a text is a pattern: a host, with a port of digits or without one. -/
def isPattern (cs : List Char) : Bool :=
  match cutFirst ':' cs with
  | none => isHostPart cs
  | some (host, port) => isHostPart host && !port.isEmpty && port.all Char.isDigit

/-- The pattern that a text denotes. -/
def parse (text : String) : Except ConfigFault HostPattern :=
  let source := asciiLowercase (trim text)
  if isPattern source.toList then .ok ⟨source⟩ else .error (.hostPattern text)

/-- What may be left of a text after a `*` took one or more characters of a label from it. -/
def afterStar : List Char → List (List Char)
  | [] => []
  | c :: cs => if isLabelChar c then cs :: afterStar cs else []

/-- What may be left of some texts after a pattern took its characters from one of them. -/
def leftovers : (pattern : List Char) → (texts : List (List Char)) → List (List Char)
  | [], texts => texts
  | p :: ps, texts =>
    leftovers ps <|
      if p = '*' then (texts.flatMap afterStar).eraseDups else texts.filterMap (afterFront? [p])

/-- Whether a text is obtained from a pattern by putting one or more label characters in place of
each `*`. -/
def covered (pattern text : List Char) : Bool := (leftovers pattern [text]).contains []

/-- Whether a host matches the pattern; the case of ASCII letters does not matter. -/
def covers (p : HostPattern) (host : String) : Bool :=
  covered p.source.toList (asciiLowercase host).toList

end HostPattern

/-! ### Policies -/

/-- How strictly registries are chosen. -/
inductive PolicyMode where
  /-- Only the listed hosts. -/
  | allowlist
  /-- Any host. -/
  | anyHost
deriving DecidableEq, Repr, Inhabited

namespace PolicyMode

/-- The name of a mode. -/
def name : PolicyMode → String
  | allowlist => "allowlist"
  | anyHost => "open"

/-- The mode with a name. -/
def ofName? (s : String) : Option PolicyMode :=
  if s = "allowlist" then some allowlist
  else if s = "open" then some anyHost
  else none

end PolicyMode

/-- Which registries images may come from. -/
structure HostPolicy where
  mode : PolicyMode
  hosts : List HostPattern
deriving DecidableEq, Repr, Inhabited

namespace HostPolicy

/-- The hosts that are allowed when none are configured. -/
def defaultHosts : List String := ["docker.io", "ghcr.io", "*-docker.pkg.dev"]

/-- The policy that allows the hosts that match one of the patterns. -/
def allowlist (patterns : List String) : Except ConfigFault HostPolicy := do
  return ⟨.allowlist, ← patterns.mapM HostPattern.parse⟩

/-- The policy that allows every host. -/
def anyHost : HostPolicy := ⟨.anyHost, []⟩

/-- The policy with a mode and patterns. -/
def ofMode (mode : PolicyMode) (patterns : List String) : Except ConfigFault HostPolicy :=
  match mode with
  | .anyHost => .ok anyHost
  | .allowlist => allowlist patterns

/-- The policy when nothing is configured. -/
def standard : HostPolicy := ⟨.allowlist, defaultHosts.map HostPattern.mk⟩

/-- The part of a host before its port. -/
def withoutPort (host : String) : String :=
  match cutFirst ':' host.toList with
  | some (name, _) => String.ofList name
  | none => host

/-- Whether a host may be contacted. -/
def allows (p : HostPolicy) (host : String) : Bool :=
  match p.mode with
  | .anyHost => true
  | .allowlist => p.hosts.any fun h => h.covers host || h.covers (withoutPort host)

/-- Refuses an image of a registry that may not be contacted. -/
def check (p : HostPolicy) (r : ImageReference) : Except Error Unit :=
  if p.allows r.registry then .ok () else .error (.registryRefused r.registry)

end HostPolicy

end Catalog
