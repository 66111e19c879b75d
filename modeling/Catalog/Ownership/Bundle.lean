import Catalog.Ownership.Outcome
import Catalog.Package.Artifact
import Catalog.Text.Digits
import Catalog.Text.Lowercase
import Catalog.Url.Basic

/-!
# Bundles

A bundle is a file to download. Who may put files on its host owns it, so nothing is fetched: the
URL must lead to one of a few hosts, and the hash of the file must be given.

## Main definitions

* `BundleArtifact.check` — refuses a bundle that is not where or what it should be.
-/

namespace Catalog.BundleArtifact

open Text

/-- Whether a host is one of those given; the case of ASCII letters does not matter. -/
def isHostAmong (hosts : List String) (host : String) : Bool :=
  hosts.any fun h => asciiLowercase h == asciiLowercase host

/-- Refuses a bundle without a hash or with one that is none. -/
def checkHash (a : BundleArtifact) : Except BundleFault Unit :=
  match a.fileSha256 with
  | none => .error .noHash
  | some hash => if isHash hash.toList then .ok () else .error (.badHash hash)

/-- Refuses a bundle that is not downloaded from one of the hosts, or whose hash is not given. -/
def check (hosts : List String) (a : BundleArtifact) : Except BundleFault Unit :=
  match Url.parse a.identifier with
  | .error fault => .error (.notUrl a.identifier fault)
  | .ok url =>
    let host := asciiLowercase url.hostText
    if url.scheme ≠ "https" then .error (.notHttps a.identifier)
    else if !isHostAmong hosts host then .error (.otherHost hosts host)
    else a.checkHash

end Catalog.BundleArtifact
