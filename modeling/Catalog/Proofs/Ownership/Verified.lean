import Catalog.Proofs.Ownership.Gates
import Mathlib

/-!
# What it takes to be verified

A package counts as its owner's exactly when it names its owner, in the way of its registry type: an
image by a label, a package of npm by a member of its manifest, packages of PyPI and NuGet in their
READMEs. A bundle names nobody; who may put files on an allowed host owns it. A package is accepted
without being verified only where packages are not looked up or the registry is asked too often.

## Main definitions

* `Ecosystem.Names` — the page of a package names the owner.
* `Verifier.Confirms` — a package and the answers about it show that it is its owner's.
* `World.LimitsRate` — a registry is asked too often.

## Main results

* `Ecosystem.judge_eq_verified_iff`, `Verifier.judgeImage_eq_verified_iff` — the replies that
  verify a package.
* `Verifier.verified_iff_confirms` — what a package comes to without limits.
-/

namespace Catalog

open Json (Layout)
open Text

/-! ### Pages -/

namespace Ecosystem

/-- The body of a page names the owner. -/
inductive Names (body : Web.Body) (owner : String) : Ecosystem → Prop
  /-- The member of a manifest is the owner. -/
  | npm (v : Json)
    (hv : (Layout.closedRecord "NpmVersion" npmFields).decodeBytes body.bytes = .ok v)
    (h : (Layout.recordMembers npmFields v).string? "mcpName" = some owner) (hne : owner ≠ "") :
    Names body owner .npm
  /-- The description of a release declares the owner. -/
  | pypi (v : Json)
    (hv : (Layout.closedRecord "PypiRelease" pypiFields).decodeBytes body.bytes = .ok v)
    (description : String)
    (hd : (Layout.recordMembers pypiInfoFields
      (((Layout.recordMembers pypiFields v).value? "info").getD .null)).string? "description" =
        some description)
    (h : declaresOwner description owner = true) : Names body owner .pypi
  /-- The README declares the owner. -/
  | nuget (h : declaresOwner body.text owner = true) : Names body owner .nuget

end Ecosystem

/-- Nobody is declared in an empty text. -/
theorem declaresOwner_empty (owner : String) : declaresOwner "" owner = false := by
  simp [declaresOwner, occursAsName, ownershipMarker]

theorem checkName_eq_ok_iff {identifier owner : String} {name : Option String} :
    checkName identifier name owner = .ok () ↔ name = some owner ∧ owner ≠ "" := by
  unfold checkName
  cases name with
  | none => simp
  | some actual =>
    simp only [String.isEmpty_iff, Option.some.injEq]
    split
    · simp only [reduceCtorEq, false_iff, not_and]
      rintro rfl
      simpa
    · split
      · simp_all
      · simp [*]

theorem checkReadme_eq_ok_iff {registry : RegistryType} {identifier readme owner : String} :
    checkReadme registry identifier readme owner = .ok () ↔ declaresOwner readme owner = true := by
  unfold checkReadme
  split <;> simp [*]

theorem checkLabel_eq_ok_iff {identifier owner : String} {config : ImageConfig} :
    checkLabel identifier config owner = .ok () ↔ config.label? ownershipLabel = some owner := by
  unfold checkLabel
  cases config.label? ownershipLabel with
  | none => simp
  | some actual => simp only [Option.some.injEq]; split <;> simp [*]

namespace Ecosystem

variable {e : Ecosystem} {identifier owner reference url : String} {reply : Web.Reply}

theorem checkPage_eq_ok_iff {unreadable : Json.Defect → Error} {body : Web.Body} :
    e.checkPage identifier owner unreadable body = .ok () ↔ Names body owner e := by
  cases e with
  | npm =>
    simp only [checkPage, bind_eq_ok_iff, mapError_eq_ok_iff, checkName_eq_ok_iff]
    constructor
    · rintro ⟨v, hv, h, hne⟩
      exact .npm v hv h hne
    · rintro ⟨v, hv, h, hne⟩
      exact ⟨v, hv, h, hne⟩
  | pypi =>
    simp only [checkPage, bind_eq_ok_iff, mapError_eq_ok_iff, checkReadme_eq_ok_iff]
    constructor
    · rintro ⟨v, hv, h⟩
      cases hd : (Layout.recordMembers pypiInfoFields
          (((Layout.recordMembers pypiFields v).value? "info").getD .null)).string?
            "description" with
      | none => simp [hd, declaresOwner_empty] at h
      | some description => exact .pypi v hv description hd (by simpa [hd] using h)
    · intro h
      cases h with
      | pypi v hv description hd h => exact ⟨v, hv, by simpa [hd] using h⟩
  | nuget =>
    simp only [checkPage, checkReadme_eq_ok_iff]
    constructor
    · exact .nuget
    · intro h
      cases h with
      | nuget h => exact h

/-- A package is verified by a successful reply with a page that names the owner. -/
theorem judge_eq_verified_iff :
    e.judge identifier owner reference url reply = .ok .verified ↔
      ∃ response body, reply = .ok response ∧ response.isSuccess = true ∧
        response.body = some body ∧ Names body owner e := by
  cases reply with
  | error failure => simp [judge]
  | ok response =>
    by_cases hs : response.isSuccess = true
    · cases hb : response.body <;>
        simp [judge, hs, hb, map_const_eq_ok_iff, checkPage_eq_ok_iff]
    · simp only [judge, if_neg hs]
      constructor
      · intro h
        split at h
        · cases h
        · split at h <;> cases h
      · rintro ⟨r, -, hr, h, -⟩
        cases hr
        exact absurd h hs

/-- A package is accepted without being verified when its registry is asked too often. -/
theorem status_of_judge_eq_ok {o : Outcome}
    (h : e.judge identifier owner reference url reply = .ok o) (ho : o ≠ .verified) :
    ∃ response, reply = .ok response ∧ response.status = 429 := by
  cases reply with
  | error failure => cases h
  | ok response =>
    refine ⟨response, rfl, ?_⟩
    by_cases hs : response.isSuccess = true
    · cases hb : response.body with
      | none => simp [judge, hs, hb] at h
      | some body =>
        simp only [judge, hs, hb, if_true, map_const_eq_ok_iff] at h
        exact absurd h.2.symm ho
    · simp only [judge, if_neg hs] at h
      split at h
      · assumption
      · split at h <;> cases h

end Ecosystem

/-! ### Images -/

namespace Verifier

variable {identifier owner : String} {reply : Except FetchError ImageConfig}

/-- An image is verified by a configuration whose label is the owner. -/
theorem judgeImage_eq_verified_iff :
    judgeImage identifier owner reply = .ok .verified ↔
      ∃ config, reply = .ok config ∧ config.label? ownershipLabel = some owner := by
  cases reply with
  | ok config => simp [judgeImage, map_const_eq_ok_iff, checkLabel_eq_ok_iff]
  | error cause =>
    simp only [reduceCtorEq, false_and, exists_false, iff_false]
    intro h
    cases cause <;> simp only [judgeImage, FetchError.status?, reduceCtorEq] at h
    split at h
    · cases h
    · split at h <;> cases h

/-- An image is accepted without being verified when its registry is asked too often. -/
theorem status_of_judgeImage_eq_ok {o : Outcome} (h : judgeImage identifier owner reply = .ok o)
    (ho : o ≠ .verified) : ∃ cause, reply = .error cause ∧ cause.status? = some 429 := by
  unfold judgeImage at h
  split at h
  · exact absurd (map_const_eq_ok_iff.mp h).2.symm ho
  · cases h
  · rename_i cause _
    refine ⟨cause, rfl, ?_⟩
    split at h
    · cases h
    · rename_i status hs
      split at h
      · rename_i ht
        rw [hs, ht]
        rfl
      · split at h <;> cases h

end Verifier

/-! ### Bundles -/

namespace BundleArtifact

/-- The case of the letters of a host does not matter. -/
theorem isHostAmong_asciiLowercase {hosts : List String} {host : String} :
    isHostAmong hosts (asciiLowercase host) = true ↔
      ∃ h ∈ hosts, asciiLowercase h = asciiLowercase host := by
  have hlower : Char.toLower ∘ Char.toLower = Char.toLower :=
    funext Char.toLower_toLower_eq_toLower
  have hidem : asciiLowercase (asciiLowercase host) = asciiLowercase host := by
    rw [asciiLowercase, asciiLowercase, String.map_map, hlower]
  simp [isHostAmong, hidem]

theorem checkHash_eq_ok_iff {a : BundleArtifact} :
    a.checkHash = .ok () ↔ ∃ hash, a.fileSha256 = some hash ∧ isHash hash.toList = true := by
  unfold checkHash
  cases a.fileSha256 with
  | none => simp
  | some hash => simp only [Option.some.injEq, exists_eq_left']; split <;> simp [*]

/-- A bundle is right when it is downloaded over an encrypted connection from one of the hosts, and
its hash is given. -/
theorem check_eq_ok_iff {hosts : List String} {a : BundleArtifact} :
    a.check hosts = .ok () ↔
      (∃ url, Url.parse a.identifier = .ok url ∧ url.scheme = "https" ∧
        ∃ h ∈ hosts, asciiLowercase h = asciiLowercase url.hostText) ∧
      ∃ hash, a.fileSha256 = some hash ∧ isHash hash.toList = true := by
  unfold check
  cases Url.parse a.identifier with
  | error fault => simp
  | ok url =>
    simp only [Except.ok.injEq, exists_eq_left', ← isHostAmong_asciiLowercase,
      ← checkHash_eq_ok_iff, ne_eq, ite_not]
    by_cases hs : url.scheme = "https"
    · by_cases hh : isHostAmong hosts (asciiLowercase url.hostText) = true <;> simp [hs, hh]
    · simp [hs]

end BundleArtifact

/-- A hash has 64 digits, which are decimal ones and the letters up to f. -/
theorem isHash_iff {cs : List Char} :
    isHash cs = true ↔
      cs.length = 64 ∧ ∀ c ∈ cs, ('0' ≤ c ∧ c ≤ '9') ∨ ('a' ≤ c ∧ c ≤ 'f') := by
  simp [isHash, isLowerHex, Char.isDigit, Char.le_def]

/-! ### Packages -/

/-- One of the answers to what was asked first says that a registry is asked too often. -/
inductive World.LimitsRate (w : World) : Lookup.Trace → Prop
  | image (r : ImageReference) (cause : FetchError)
    (hw : w.image ⟨[], []⟩ r = some (.error cause)) (hs : cause.status? = some 429) :
    LimitsRate w ⟨[], [r]⟩
  | page (q : Web.Request) (response : Web.Response)
    (hw : w.page ⟨[], []⟩ q = some (.ok response)) (hs : response.status = 429) :
    LimitsRate w ⟨[q], []⟩

namespace Verifier

/-- A package and the answers about it show that it is its owner's. -/
inductive Confirms (v : Verifier) (w : World) (p : Package) (owner : String) : Prop
  /-- The image is in an allowed registry, and its ownership label is the owner. -/
  | image (ht : p.registryType = .oci) (r : ImageReference)
    (hr : ImageReference.parse p.identifier = .ok r) (hp : v.policy.allows r.registry = true)
    (config : ImageConfig) (hw : w.image ⟨[], []⟩ r = some (.ok config))
    (hl : config.label? ownershipLabel = some owner)
  /-- The page of the version in the configured registry names the owner. -/
  | native (e : Ecosystem) (ht : p.registryType = e.registryType)
    (hb : ∀ url, p.registryBaseUrl = some url → url ≠ "" →
      dropTrailingSlashes url = dropTrailingSlashes (v.baseUrl e))
    (version : String) (hv : p.version = some version) (hne : version ≠ "") (q : Web.Request)
    (hq : q = .plain (e.pageUrl (v.baseUrl e) (e.release p.identifier version))) (u : Url)
    (hu : q.target = .ok u) (response : Web.Response)
    (hw : w.page ⟨[], []⟩ q = some (.ok response)) (hs : response.isSuccess = true)
    (body : Web.Body) (hbody : response.body = some body) (hn : Ecosystem.Names body owner e)
  /-- The bundle is on an allowed host, and the hash of the file is given. -/
  | bundle (ht : p.registryType = .mcpb) (url : Url) (hu : Url.parse p.identifier = .ok url)
    (hs : url.scheme = "https")
    (hh : ∃ h ∈ v.bundleHosts, asciiLowercase h = asciiLowercase url.hostText)
    (hash : String) (hf : p.fileSha256 = some hash) (hl : hash.toList.length = 64)
    (hx : ∀ c ∈ hash.toList, ('0' ≤ c ∧ c ≤ '9') ∨ ('a' ≤ c ∧ c ≤ 'f'))

open Artifact (nonEmpty_eq_some_iff)

variable {v : Verifier} {w : World} {p : Package} {owner : String}

/-- What a package comes to in a world when nothing limits the caller. -/
def resultIn (v : Verifier) (w : World) (p : Package) (owner : String) :
    Option (Except Error Outcome) :=
  (Limits.unlimited.runLookup w (v.verify false p owner)).1

/-- Without limits, a package comes to what its lookup results in. -/
theorem resultIn_eq : v.resultIn w p owner = ((v.verify false p owner).run w).1 :=
  Option.or_none

theorem asked_unlimited : v.asked .unlimited w p owner = ((v.verify false p owner).run w).2 := rfl

/-- An image is verified by the configuration that is fetched for it. -/
theorem run_verifyImage_eq_verified_iff :
    ((v.verifyImage p owner).run w).1 = some (.ok .verified) ↔
      ∃ r, v.imageToFetch p = .ok r ∧
        ∃ config, w.image ⟨[], []⟩ r = some (.ok config) ∧
          config.label? ownershipLabel = some owner := by
  cases hi : v.imageToFetch p with
  | error fault => simp [verifyImage_of_error hi]
  | ok r => simp [verifyImage_of_ok hi, Lookup.run_image, judgeImage_eq_verified_iff]

/-- A bundle is verified when it is right. -/
theorem verifyBundle_eq_verified_iff {a : BundleArtifact} :
    ((v.verifyArtifact p owner (.bundle a)).run w).1 = some (.ok .verified) ↔
      a.check v.bundleHosts = .ok () := by
  simp only [verifyArtifact, Lookup.run_done, Option.some.injEq]
  split <;> simp [*]

/-- A package of an ecosystem is verified by its page. -/
theorem run_verify_eq_verified_iff {e : Ecosystem} {a : NativeArtifact} {baseUrl : String} :
    ((e.verify baseUrl a owner).run w).1 = some (.ok .verified) ↔
      e.checkBaseUrl a.registryBaseUrl baseUrl = .ok () ∧
        ∃ version, a.version = some version ∧
          ∃ q u response body, q = .plain (e.pageUrl baseUrl (e.release a.identifier version)) ∧
            q.target = .ok u ∧ w.page ⟨[], []⟩ q = some (.ok response) ∧
            response.isSuccess = true ∧ response.body = some body ∧
            Ecosystem.Names body owner e := by
  by_cases hwithheld : e.checkBaseUrl a.registryBaseUrl baseUrl ≠ .ok () ∨ a.version = none
  · obtain ⟨fault, hf⟩ := Ecosystem.verify_eq_done owner hwithheld
    rw [hf]
    constructor
    · intro h
      cases h
    · rintro ⟨hb, version, hv, -⟩
      rcases hwithheld with h | h
      · exact absurd hb h
      · rw [hv] at h
        cases h
  · obtain ⟨hb, hv⟩ := not_or.mp hwithheld
    replace hb := Classical.not_not.mp hb
    obtain ⟨version, hv⟩ := Option.ne_none_iff_exists'.mp hv
    rw [Ecosystem.verify_eq_ask hb hv]
    cases hq : (Web.Request.plain (e.pageUrl baseUrl (e.release a.identifier version))).target with
    | error failure =>
      simp [Lookup.run_ask_of_error hq, Ecosystem.judge_eq_verified_iff, hb, hv, hq]
    | ok u => simp [Lookup.run_ask hq, Ecosystem.judge_eq_verified_iff, hb, hv, hq]

theorem resultIn_eq_verified_iff :
    v.resultIn w p owner = some (.ok .verified) ↔
      v.enabled = true ∧ (∃ a, Artifact.ofPackage p = .ok a) ∧ v.Confirms w p owner := by
  rw [resultIn_eq]
  cases he : v.enabled with
  | false => simp [verify_of_disabled he]
  | true =>
    cases ha : Artifact.ofPackage p with
    | error e =>
      obtain ⟨fault, hf⟩ := verify_of_malformed false owner he ha
      simp [hf]
    | ok a =>
      rw [verify_eq he ha, unlessCancelled_false]
      simp only [Except.ok.injEq, exists_eq', true_and]
      constructor
      · intro h
        obtain ⟨ht, rfl⟩ | ⟨ht, rfl⟩ | ⟨e, ht, rfl⟩ | ⟨name, ht, rfl⟩ := Artifact.ofPackage_cases ha
        · obtain ⟨r, hr, config, hw, hl⟩ := run_verifyImage_eq_verified_iff.mp h
          obtain ⟨-, hr, hp⟩ := imageToFetch_eq_ok_iff.mp hr
          exact .image ht r hr hp config hw hl
        · obtain ⟨⟨url, hu, hs, hh⟩, hash, hf, hx⟩ :=
            BundleArtifact.check_eq_ok_iff.mp (verifyBundle_eq_verified_iff.mp h)
          obtain ⟨hl, hx⟩ := isHash_iff.mp hx
          exact .bundle ht url hu hs hh hash (nonEmpty_eq_some_iff.mp hf).1 hl hx
        · rw [verifyArtifact_artifact] at h
          obtain ⟨hb, version, hv, q, u, response, body, hq, hu, hw, hs, hbody, hn⟩ :=
            run_verify_eq_verified_iff.mp h
          obtain ⟨hv, hne⟩ := nonEmpty_eq_some_iff.mp hv
          exact .native e ht (Ecosystem.checkBaseUrl_nonEmpty_eq_ok_iff.mp hb) version hv hne q hq u
            hu response hw hs body hbody hn
        · cases h
      · intro h
        cases h with
        | image ht r hr hp config hw hl =>
          rw [Artifact.eq_image_of_ofPackage ha ht]
          exact run_verifyImage_eq_verified_iff.mpr
            ⟨r, imageToFetch_eq_ok_iff.mpr ⟨⟨a, ha⟩, hr, hp⟩, config, hw, hl⟩
        | native e ht hb version hv hne q hq u hu response hw hs body hbody hn =>
          rw [Artifact.eq_artifact_of_ofPackage ha ht, verifyArtifact_artifact]
          exact run_verify_eq_verified_iff.mpr
            ⟨Ecosystem.checkBaseUrl_nonEmpty_eq_ok_iff.mpr hb, version,
              nonEmpty_eq_some_iff.mpr ⟨hv, hne⟩, q, u, response, body, hq, hu, hw, hs, hbody, hn⟩
        | bundle ht url hu hs hh hash hf hl hx =>
          have hhash : hash ≠ "" := by
            rintro rfl
            cases hl
          rw [Artifact.eq_bundle_of_ofPackage ha ht]
          exact verifyBundle_eq_verified_iff.mpr (BundleArtifact.check_eq_ok_iff.mpr
            ⟨⟨url, hu, hs, hh⟩, hash, nonEmpty_eq_some_iff.mpr ⟨hf, hhash⟩,
              isHash_iff.mpr ⟨hl, hx⟩⟩)

/-- An image that is accepted without being verified is in a registry that is asked too often. -/
theorem limitsRate_of_verifyImage {o : Outcome}
    (h : ((v.verifyImage p owner).run w).1 = some (.ok o)) (ho : o ≠ .verified) :
    w.LimitsRate ((v.verifyImage p owner).run w).2 := by
  cases hi : v.imageToFetch p with
  | error fault =>
    rw [verifyImage_of_error hi] at h
    cases h
  | ok r =>
    rw [verifyImage_of_ok hi, Lookup.run_image] at h ⊢
    obtain ⟨reply, hw, hj⟩ := Option.map_eq_some_iff.mp h
    obtain ⟨cause, rfl, hs⟩ := status_of_judgeImage_eq_ok hj ho
    exact .image r cause hw hs

/-- A package of an ecosystem that is accepted without being verified is in a registry that is asked
too often. -/
theorem limitsRate_of_verify {e : Ecosystem} {a : NativeArtifact} {baseUrl : String} {o : Outcome}
    (h : ((e.verify baseUrl a owner).run w).1 = some (.ok o)) (ho : o ≠ .verified) :
    w.LimitsRate ((e.verify baseUrl a owner).run w).2 := by
  by_cases hwithheld : e.checkBaseUrl a.registryBaseUrl baseUrl ≠ .ok () ∨ a.version = none
  · obtain ⟨fault, hf⟩ := Ecosystem.verify_eq_done owner hwithheld
    rw [hf] at h
    cases h
  · obtain ⟨hb, hv⟩ := not_or.mp hwithheld
    obtain ⟨version, hv⟩ := Option.ne_none_iff_exists'.mp hv
    rw [Ecosystem.verify_eq_ask (Classical.not_not.mp hb) hv] at h ⊢
    cases hq : (Web.Request.plain (e.pageUrl baseUrl (e.release a.identifier version))).target with
    | error failure =>
      rw [Lookup.run_ask_of_error hq] at h
      cases h
    | ok u =>
      rw [Lookup.run_ask hq] at h ⊢
      obtain ⟨reply, hw, hj⟩ := Option.map_eq_some_iff.mp h
      obtain ⟨response, rfl, hs⟩ := Ecosystem.status_of_judge_eq_ok hj ho
      exact .page _ response hw hs

/-- When packages are looked up, one that is accepted without being verified is in a registry that
is asked too often. -/
theorem limitsRate_of_resultIn {o : Outcome} (h : v.resultIn w p owner = some (.ok o))
    (ho : o ≠ .verified) (he : v.enabled = true) :
    w.LimitsRate (v.asked .unlimited w p owner) := by
  rw [resultIn_eq] at h
  rw [asked_unlimited]
  cases ha : Artifact.ofPackage p with
  | error e =>
    obtain ⟨fault, hf⟩ := verify_of_malformed false owner he ha
    rw [hf] at h
    cases h
  | ok a =>
    rw [verify_eq he ha] at h ⊢
    obtain ⟨-, rfl⟩ | ⟨-, rfl⟩ | ⟨e, -, rfl⟩ | ⟨name, -, rfl⟩ := Artifact.ofPackage_cases ha
    · exact limitsRate_of_verifyImage h ho
    · simp only [unlessCancelled_false, verifyArtifact, Lookup.run_done, Option.some.injEq] at h
      split at h
      · cases h
        exact absurd rfl ho
      · cases h
    · rw [unlessCancelled_false, verifyArtifact_artifact] at h ⊢
      exact limitsRate_of_verify h ho
    · cases h

/-- What a package comes to when nothing limits the caller. It is verified exactly when it and the
answers about it show that it is its owner's, which they never do for an unknown type; and it is
accepted without being verified only when packages are not looked up or when a registry is asked too
often. -/
theorem verified_iff_confirms (v : Verifier) (w : World) (p : Package) (owner : String) :
    (v.resultIn w p owner = some (.ok .verified) ↔
      v.enabled = true ∧ (∃ a, Artifact.ofPackage p = .ok a) ∧ v.Confirms w p owner) ∧
    (∀ name, p.registryType = .other name → v.resultIn w p owner ≠ some (.ok .verified)) ∧
    ∀ o, v.resultIn w p owner = some (.ok o) → o ≠ .verified →
      v.enabled = false ∨ w.LimitsRate (v.asked .unlimited w p owner) := by
  refine ⟨resultIn_eq_verified_iff, fun name ht h => ?_, fun o h ho => ?_⟩
  · obtain ⟨-, -, hc⟩ := resultIn_eq_verified_iff.mp h
    cases hc with
    | image hi => rw [ht] at hi; cases hi
    | native e he => exact absurd (he.symm.trans ht) (e.registryType_ne_other name)
    | bundle hb => rw [ht] at hb; cases hb
  · cases he : v.enabled with
    | false => exact .inl rfl
    | true => exact .inr (limitsRate_of_resultIn h ho he)

/-- A package is verified by a README that declares the owner. -/
example :
    let readme := Web.Body.ofBytes "# Pad\nmcp-name: io.github.acme/pad".toUTF8.toList
    let package := { Package.ofIdentifier .nuget "Acme.Pad" with version := some "1.0.0" }
    Verifier.standard.resultIn
      ⟨fun _ _ => some (.ok ⟨200, some "text/markdown", none, some readme⟩), fun _ _ => none⟩
      package "io.github.acme/pad" = some (.ok .verified) := by
  decide +kernel

end Verifier

end Catalog
