import Catalog.Url.Address
import Catalog.Url.Domain

/-!
# Hosts

The host of a URL: a domain, an internet address, or for schemes of their own any text. Most of what
can be wrong with a URL is wrong with its host.

## Main definitions

* `Fault` — why a text is no URL.
* `Host` — a host.
* `Host.parse`, `Host.parseOpaque` — the hosts that texts denote.
* `Host.text` — the text of a host.
-/

namespace Catalog.Url

/-! ### Faults -/

/-- Why a text is no URL. -/
inductive Fault where
  | emptyHost
  | invalidDomain
  | invalidPort
  | invalidIpv4
  | invalidIpv6
  | forbiddenHostCharacter
  | noBase
  | baseWithoutHierarchy
deriving DecidableEq, Repr, Inhabited

/-- The wording of a fault. -/
def Fault.message : Fault → String
  | emptyHost => "empty host"
  | invalidDomain => "invalid international domain name"
  | invalidPort => "invalid port number"
  | invalidIpv4 => "invalid IPv4 address"
  | invalidIpv6 => "invalid IPv6 address"
  | forbiddenHostCharacter => "invalid domain character"
  | noBase => "relative URL without a base"
  | baseWithoutHierarchy => "relative URL with a cannot-be-a-base base"

/-! ### Hosts -/

/-- The host of a URL. -/
inductive Host where
  /-- A domain in lowercase, or the text of a host of a scheme of its own. -/
  | name (text : String)
  | ipv4 (address : Nat)
  /-- An IPv6 address by its eight pieces. -/
  | ipv6 (pieces : List Nat)
deriving DecidableEq, Repr, Inhabited

namespace Host

/-- The text of a host. An IPv6 address stands in brackets. -/
def text : Host → String
  | name s => s
  | ipv4 a => ipv4Text a
  | ipv6 ps => "[" ++ ipv6Text ps ++ "]"

/-- The IPv6 address in brackets, given the text after the opening one. -/
def bracketed (cs : List Char) : Except Fault Host :=
  match cs.getLast? with
  | some ']' =>
    match parseIpv6 cs.dropLast with
    | some pieces => .ok (ipv6 pieces)
    | none => .error .invalidIpv6
  | _ => .error .invalidIpv6

/-- The host that a domain denotes. A domain that ends in a number must be an IPv4 address. -/
def ofDomain (domain : List Char) : Except Fault Host :=
  if domain.isEmpty then .error .emptyHost
  else if endsInNumber domain then
    match parseIpv4 domain with
    | some address => .ok (ipv4 address)
    | none => .error .invalidIpv4
  else .ok (name (String.ofList domain))

/-- The host of a web address. -/
def parse : List Char → Except Fault Host
  | '[' :: cs => bracketed cs
  | cs =>
    match (textOf? (percentDecode cs)).bind domainOf? with
    | some domain => ofDomain domain
    | none => .error .invalidDomain

/-- The characters that no host of a scheme of its own contains. -/
def forbidden (c : Char) : Bool :=
  ['\x00', '\t', '\n', '\r', ' ', '#', '/', ':', '<', '>', '?', '@', '[', '\\', ']', '^',
    '|'].contains c

/-- The host of a URL with a scheme of its own. -/
def parseOpaque : List Char → Except Fault Host
  | '[' :: cs => bracketed cs
  | cs =>
    if cs.any forbidden then .error .forbiddenHostCharacter
    else .ok (name (String.ofList (percentEncode escapedEverywhere cs)))

end Host

end Catalog.Url
