import Catalog.Ownership.Verifier
import Catalog.Proofs.Except
import Catalog.Proofs.Package.Artifact

/-!
# What is checked before anything is asked

A verifier asks a registry about a package only after everything that can be told without asking is
right. What can be told depends on the type of the package: an image needs a reference to an allowed
registry, a package of an ecosystem needs a version and must not declare another registry, and
bundles and unknown types are never asked for at all. The lookup of a package has therefore one of
three shapes: it is over, it is one question for an image, or it is one request for a page.

## Main definitions

* `Verifier.Withholds` — something that keeps a package from being asked for.

## Main results

* `Verifier.verify_eq` — the lookup of a package is the one of its artifact.
* `Verifier.verify_of_withholds` — the lookup of a package that is withheld is over.
* `Verifier.verify_of_not_withholds` — the lookup of any other package is one question.
* `Verifier.asks_past_gates` — what is asked about a package under limits, in any world.
-/

namespace Catalog

/-! ### Runs of lookups with at most one question -/

namespace Lookup

variable {α : Type} {w : World}

@[simp] theorem run_done (a : α) : (done a).run w = (some a, ⟨[], []⟩) := rfl

theorem run_image (r : ImageReference) (f : Except FetchError ImageConfig → α) :
    (image r fun reply => done (f reply)).run w = ((w.image ⟨[], []⟩ r).map f, ⟨[], [r]⟩) := by
  simp only [run, runAfter, List.nil_append]
  cases w.image ⟨[], []⟩ r <;> rfl

/-- A request that leads somewhere is the first question of the run. -/
theorem run_ask {q : Web.Request} {u : Url} (hq : q.target = .ok u) (f : Web.Reply → α) :
    ((ask q).bind fun reply => done (f reply)).run w =
      ((w.page ⟨[], []⟩ q).map f, ⟨[q], []⟩) := by
  simp only [ask, hq, bind, run, runAfter, List.nil_append]
  cases w.page ⟨[], []⟩ q <;> rfl

/-- A request that leads nowhere is not asked. -/
theorem run_ask_of_error {q : Web.Request} {failure : Web.Failure} (hq : q.target = .error failure)
    (f : Web.Reply → α) :
    ((ask q).bind fun reply => done (f reply)).run w =
      (some (f (.error failure)), ⟨[], []⟩) := by
  simp only [ask, hq, bind, run_done]

end Lookup

/-! ### Packages of ecosystems -/

namespace Ecosystem

open Artifact (nonEmpty nonEmpty_eq_some_iff)

variable {e : Ecosystem} {a : NativeArtifact} {baseUrl owner : String}

/-- The registry of a package is the right one when no other base URL is declared, slashes at the
end aside. -/
theorem checkBaseUrl_eq_ok_iff {declared : Option String} {expected : String} :
    e.checkBaseUrl declared expected = .ok () ↔
      ∀ url, nonEmpty declared = some url →
        Text.dropTrailingSlashes url = Text.dropTrailingSlashes expected := by
  unfold checkBaseUrl
  cases nonEmpty declared with
  | none => simp
  | some actual => simp only [Option.some.injEq, forall_eq']; split <;> simp [*]

/-- The same, where an empty base URL is none. -/
theorem checkBaseUrl_nonEmpty_eq_ok_iff {declared : Option String} {expected : String} :
    e.checkBaseUrl (nonEmpty declared) expected = .ok () ↔
      ∀ url, declared = some url → url ≠ "" →
        Text.dropTrailingSlashes url = Text.dropTrailingSlashes expected := by
  simp only [checkBaseUrl_eq_ok_iff, nonEmpty_eq_some_iff, and_imp]
  exact forall_congr' fun url => ⟨fun h hd hne => h hd hne hne, fun h hd hne _ => h hd hne⟩

/-- A package with a version in the right registry is looked up on the page of that version. -/
theorem verify_eq_ask {version : String} (hb : e.checkBaseUrl a.registryBaseUrl baseUrl = .ok ())
    (hv : a.version = some version) :
    e.verify baseUrl a owner =
      (Lookup.ask (.plain (e.pageUrl baseUrl (e.release a.identifier version)))).bind fun reply =>
        .done (e.judge a.identifier owner (e.referenceText a.identifier version)
          (e.pageUrl baseUrl (e.release a.identifier version)) reply) := by
  simp only [verify, hb, hv]

/-- A package in another registry or without a version is refused. -/
theorem verify_eq_done (owner : String)
    (h : e.checkBaseUrl a.registryBaseUrl baseUrl ≠ .ok () ∨ a.version = none) :
    ∃ fault, e.verify baseUrl a owner = .done (.error fault) := by
  unfold verify
  cases hb : e.checkBaseUrl a.registryBaseUrl baseUrl with
  | error fault => exact ⟨fault, rfl⟩
  | ok u =>
    have hv : a.version = none := h.resolve_left fun hne => hne hb
    rw [hv]
    exact ⟨_, rfl⟩

end Ecosystem

/-! ### The lookup of a package -/

theorem HostPolicy.check_eq_ok_iff {policy : HostPolicy} {r : ImageReference} :
    policy.check r = .ok () ↔ policy.allows r.registry = true := by
  unfold check
  split <;> simp [*]

namespace Verifier

open Artifact (nonEmpty nonEmpty_eq_none_iff)

variable {v : Verifier} {cancelled : Bool} {p : Package} {owner : String}

@[simp] theorem unlessCancelled_false (x : Lookup (Except Error Outcome)) :
    unlessCancelled false x = x := rfl

theorem verify_of_disabled (h : v.enabled = false) :
    v.verify cancelled p owner = .done (.ok .disabled) := by
  simp [verify, h]

/-- An image is asked for when the fields of its package are right, and its identifier is a
reference to a registry that is allowed. -/
theorem imageToFetch_eq_ok_iff {r : ImageReference} :
    v.imageToFetch p = .ok r ↔
      (∃ a, Artifact.ofPackage p = .ok a) ∧ ImageReference.parse p.identifier = .ok r ∧
        v.policy.allows r.registry = true := by
  unfold imageToFetch
  simp only [bind_eq_ok_iff, mapError_eq_ok_iff, pure, Except.pure, Except.ok.injEq]
  constructor
  · rintro ⟨a, ha, s, hs, ⟨⟩, hp, rfl⟩
    rw [Artifact.identifier_of_ofPackage ha] at hs
    exact ⟨⟨a, ha⟩, hs, HostPolicy.check_eq_ok_iff.mp hp⟩
  · rintro ⟨⟨a, ha⟩, hr, hp⟩
    rw [← Artifact.identifier_of_ofPackage ha] at hr
    exact ⟨a, ha, r, hr, (), HostPolicy.check_eq_ok_iff.mpr hp, rfl⟩

theorem verifyImage_of_ok {r : ImageReference} (h : v.imageToFetch p = .ok r) :
    v.verifyImage p owner = .image r fun reply => .done (judgeImage p.identifier owner reply) := by
  rw [verifyImage, h]

theorem verifyImage_of_error {fault : Error} (h : v.imageToFetch p = .error fault) :
    v.verifyImage p owner = .done (.error fault) := by
  rw [verifyImage, h]

theorem verifyArtifact_artifact (e : Ecosystem) (a : NativeArtifact) :
    v.verifyArtifact p owner (e.artifact a) = e.verify (v.baseUrl e) a owner := by
  cases e <;> rfl

/-- The lookup of a package is the one of its artifact. -/
theorem verify_eq (he : v.enabled = true) {a : Artifact} (ha : Artifact.ofPackage p = .ok a) :
    v.verify cancelled p owner = unlessCancelled cancelled (v.verifyArtifact p owner a) := by
  by_cases ht : p.registryType = .oci
  · rw [Artifact.eq_image_of_ofPackage ha ht]
    simp [verify, he, ht, verifyArtifact]
  · simp [verify, he, ht, ha]

/-- A package with a field that its type forbids, or without one that it needs, is refused. -/
theorem verify_of_malformed (cancelled : Bool) (owner : String) (he : v.enabled = true) {e : Error}
    (h : Artifact.ofPackage p = .error e) :
    ∃ fault, v.verify cancelled p owner = .done (.error fault) := by
  have hi : v.imageToFetch p = .error e := by simp only [imageToFetch, h]; rfl
  by_cases ht : p.registryType = .oci
  · cases cancelled with
    | true => exact ⟨.cancelled, by simp [verify, he, ht, unlessCancelled]⟩
    | false => exact ⟨e, by simp [verify, he, ht, unlessCancelled, verifyImage_of_error hi]⟩
  · exact ⟨e, by simp [verify, he, ht, h]⟩

/-! ### What is withheld -/

/-- Something that can be told without asking a registry and that keeps a package from being asked
for. -/
inductive Withholds (v : Verifier) (cancelled : Bool) (p : Package) : Prop
  /-- Packages are not looked up. -/
  | disabled (h : v.enabled = false)
  /-- The caller gave up before. -/
  | cancelled (h : cancelled = true)
  /-- The fields do not follow the rules of the type. -/
  | malformed (e : Error) (h : Artifact.ofPackage p = .error e)
  /-- Bundles are downloads from allowed hosts. -/
  | bundle (ht : p.registryType = .mcpb)
  /-- There is nobody to ask. -/
  | unknown (name : String) (ht : p.registryType = .other name)
  /-- The identifier is no image reference. -/
  | unreadable (ht : p.registryType = .oci) (fault : ImageReference.Fault)
    (h : ImageReference.parse p.identifier = .error fault)
  /-- The registry of the image is not allowed. -/
  | refused (ht : p.registryType = .oci) (r : ImageReference)
    (hr : ImageReference.parse p.identifier = .ok r) (h : v.policy.allows r.registry = false)
  /-- The package declares another registry, slashes at the end aside. -/
  | elsewhere (e : Ecosystem) (ht : p.registryType = e.registryType) (url : String)
    (hd : p.registryBaseUrl = some url) (hne : url ≠ "")
    (h : Text.dropTrailingSlashes url ≠ Text.dropTrailingSlashes (v.baseUrl e))
  /-- The package declares no version, or an empty one. -/
  | unversioned (e : Ecosystem) (ht : p.registryType = e.registryType)
    (h : p.version = none ∨ p.version = some "")

/-- An image is withheld when there is none to fetch. -/
theorem withholds_iff_of_image (he : v.enabled = true) (hc : cancelled = false) {a : Artifact}
    (ha : Artifact.ofPackage p = .ok a) (ht : p.registryType = .oci) :
    v.Withholds cancelled p ↔ ∀ r, v.imageToFetch p ≠ .ok r := by
  simp only [imageToFetch_eq_ok_iff, ha, Except.ok.injEq, exists_eq', true_and, ne_eq, not_and,
    Bool.not_eq_true]
  constructor
  · intro h r hr
    cases h with
    | disabled h => rw [he] at h; cases h
    | cancelled h => rw [hc] at h; cases h
    | malformed e h => rw [ha] at h; cases h
    | bundle h => rw [ht] at h; cases h
    | unknown name h => rw [ht] at h; cases h
    | unreadable _ fault h => rw [hr] at h; cases h
    | refused _ s hs h =>
      rw [hr, Except.ok.injEq] at hs
      exact hs ▸ h
    | elsewhere e h => exact absurd (h.symm.trans ht) e.registryType_ne_oci
    | unversioned e h => exact absurd (h.symm.trans ht) e.registryType_ne_oci
  · intro h
    cases hr : ImageReference.parse p.identifier with
    | error fault => exact .unreadable ht fault hr
    | ok r => exact .refused ht r hr (h r hr)

/-- A package of an ecosystem is withheld when it declares another registry or no version. -/
theorem withholds_iff_of_ecosystem (he : v.enabled = true) (hc : cancelled = false) {a : Artifact}
    (ha : Artifact.ofPackage p = .ok a) {e : Ecosystem} (ht : p.registryType = e.registryType) :
    v.Withholds cancelled p ↔
      e.checkBaseUrl (Artifact.native p).registryBaseUrl (v.baseUrl e) ≠ .ok () ∨
        (Artifact.native p).version = none := by
  simp only [Artifact.native, ne_eq, Ecosystem.checkBaseUrl_nonEmpty_eq_ok_iff,
    nonEmpty_eq_none_iff, Classical.not_forall, exists_prop]
  constructor
  · intro h
    cases h with
    | disabled h => rw [he] at h; cases h
    | cancelled h => rw [hc] at h; cases h
    | malformed e h => rw [ha] at h; cases h
    | bundle h => exact absurd (ht.symm.trans h) e.registryType_ne_mcpb
    | unknown name h => exact absurd (ht.symm.trans h) (e.registryType_ne_other name)
    | unreadable h => exact absurd (ht.symm.trans h) e.registryType_ne_oci
    | refused h => exact absurd (ht.symm.trans h) e.registryType_ne_oci
    | elsewhere f hf url hd hne h =>
      cases Ecosystem.registryType_injective (ht.symm.trans hf)
      exact .inl ⟨url, hd, hne, h⟩
    | unversioned f hf h => exact .inr h
  · rintro (⟨url, hd, hne, h⟩ | h)
    · exact .elsewhere e ht url hd hne h
    · exact .unversioned e ht h

/-- The lookup of a package that is withheld is over. -/
theorem verify_of_withholds (owner : String) (h : v.Withholds cancelled p) :
    ∃ result, v.verify cancelled p owner = .done result := by
  cases he : v.enabled with
  | false => exact ⟨_, verify_of_disabled he⟩
  | true =>
    cases ha : Artifact.ofPackage p with
    | error e =>
      obtain ⟨fault, hf⟩ := verify_of_malformed cancelled owner he ha
      exact ⟨_, hf⟩
    | ok a =>
      rw [verify_eq he ha]
      cases hc : cancelled with
      | true => exact ⟨_, rfl⟩
      | false =>
        rw [unlessCancelled_false]
        obtain ⟨ht, rfl⟩ | ⟨-, rfl⟩ | ⟨e, ht, rfl⟩ | ⟨name, -, rfl⟩ := Artifact.ofPackage_cases ha
        · cases hi : v.imageToFetch p with
          | error fault => exact ⟨_, verifyImage_of_error hi⟩
          | ok r => exact absurd hi ((withholds_iff_of_image he hc ha ht).mp h r)
        · exact ⟨_, rfl⟩
        · obtain ⟨fault, hf⟩ :=
            Ecosystem.verify_eq_done owner ((withholds_iff_of_ecosystem he hc ha ht).mp h)
          rw [verifyArtifact_artifact, hf]
          exact ⟨_, rfl⟩
        · exact ⟨_, rfl⟩

/-- The lookup of a package that is not withheld is one question: for the image that its identifier
denotes, or for the page of its version in the registry of its ecosystem. -/
theorem verify_of_not_withholds (owner : String) (h : ¬ v.Withholds cancelled p) :
    (∃ r, p.registryType = .oci ∧ v.imageToFetch p = .ok r ∧
      v.verify cancelled p owner =
        .image r fun reply => .done (judgeImage p.identifier owner reply)) ∨
    ∃ (e : Ecosystem) (version : String), p.registryType = e.registryType ∧
      nonEmpty p.version = some version ∧
      v.verify cancelled p owner =
        (Lookup.ask (.plain (e.pageUrl (v.baseUrl e) (e.release p.identifier version)))).bind
          fun reply => .done (e.judge p.identifier owner (e.referenceText p.identifier version)
            (e.pageUrl (v.baseUrl e) (e.release p.identifier version)) reply) := by
  have he : v.enabled = true := Bool.of_not_eq_false fun he => h (.disabled he)
  have hc : cancelled = false := Bool.of_not_eq_true fun hc => h (.cancelled hc)
  cases ha : Artifact.ofPackage p with
  | error e => exact absurd (.malformed e ha) h
  | ok a =>
    rw [verify_eq he ha, hc, unlessCancelled_false]
    obtain ⟨ht, rfl⟩ | ⟨ht, rfl⟩ | ⟨e, ht, rfl⟩ | ⟨name, ht, rfl⟩ := Artifact.ofPackage_cases ha
    · rw [withholds_iff_of_image he hc ha ht] at h
      obtain ⟨r, hr⟩ := Classical.not_forall_not.mp h
      exact .inl ⟨r, ht, hr, verifyImage_of_ok hr⟩
    · exact absurd (.bundle ht) h
    · rw [withholds_iff_of_ecosystem he hc ha ht] at h
      obtain ⟨hb, hv⟩ := not_or.mp h
      obtain ⟨version, hv⟩ := Option.ne_none_iff_exists'.mp hv
      exact .inr ⟨e, version, ht, hv,
        (verifyArtifact_artifact e _).trans (Ecosystem.verify_eq_ask (Classical.not_not.mp hb) hv)⟩
    · exact absurd (.unknown name ht) h

/-! ### What is asked -/

/-- What is asked about a package in a world, under limits. -/
def asked (v : Verifier) (l : Limits) (w : World) (p : Package) (owner : String) : Lookup.Trace :=
  (l.runLookup w (v.verify l.cancelled p owner)).2

/-- A page that is asked for is the one of the version of a package in its ecosystem, and it leads
somewhere. -/
theorem exists_of_mem_asked_pages {l : Limits} {w : World} {q : Web.Request}
    (h : q ∈ (v.asked l w p owner).pages) :
    ∃ (e : Ecosystem) (version : String) (u : Url), p.registryType = e.registryType ∧
      nonEmpty p.version = some version ∧ q.target = .ok u ∧
      q = .plain (e.pageUrl (v.baseUrl e) (e.release p.identifier version)) := by
  rw [asked, Limits.runLookup] at h
  by_cases hwithheld : v.Withholds l.cancelled p
  · obtain ⟨result, hv⟩ := verify_of_withholds owner hwithheld
    rw [hv] at h
    cases h
  · obtain ⟨r, -, -, hv⟩ | ⟨e, version, ht, hversion, hv⟩ := verify_of_not_withholds owner hwithheld
    · rw [hv, Lookup.run_image] at h
      cases h
    · rw [hv] at h
      cases hq : (Web.Request.plain
          (e.pageUrl (v.baseUrl e) (e.release p.identifier version))).target with
      | error failure =>
        rw [Lookup.run_ask_of_error hq] at h
        cases h
      | ok u =>
        rw [Lookup.run_ask hq] at h
        cases List.mem_singleton.mp h
        exact ⟨e, version, u, ht, hversion, hq, rfl⟩

/-- What is asked in any world, under any limits. Nothing is asked about a package that is withheld,
by no client for images either. Of the others, an image is asked for once, by the reference that the
identifier denotes; and for a package of an ecosystem at most one page is asked for, at a URL that
starts with the base URL of the registry. -/
theorem asks_past_gates (v : Verifier) (l : Limits) (w : World) (p : Package) (owner : String) :
    (v.Withholds l.cancelled p ∧ v.asked l w p owner = ⟨[], []⟩ ∧
      ∀ client : ImageClient,
        (l.runLookup w (v.verifyRemotely client l.cancelled p owner)).2 = ⟨[], []⟩) ∨
    (¬ v.Withholds l.cancelled p ∧
      ((∃ r, p.registryType = .oci ∧ ImageReference.parse p.identifier = .ok r ∧
          v.asked l w p owner = ⟨[], [r]⟩) ∨
        ∃ e : Ecosystem, p.registryType = e.registryType ∧ (v.asked l w p owner).images = [] ∧
          ((v.asked l w p owner).pages = [] ∨
            ∃ url : String, (v.asked l w p owner).pages = [.plain url] ∧
              (Text.dropTrailingSlashes (v.baseUrl e)).toList <+: url.toList))) := by
  by_cases h : v.Withholds l.cancelled p
  · obtain ⟨result, hv⟩ := verify_of_withholds owner h
    refine .inl ⟨h, ?_, fun client => ?_⟩
    · rw [asked, hv]; rfl
    · rw [verifyRemotely, hv]; rfl
  · refine .inr ⟨h, ?_⟩
    obtain ⟨r, ht, hr, hv⟩ | ⟨e, version, ht, -, hv⟩ := verify_of_not_withholds owner h
    · refine .inl ⟨r, ht, (imageToFetch_eq_ok_iff.mp hr).2.1, ?_⟩
      rw [asked, hv, Limits.runLookup, Lookup.run_image]
    · refine .inr ⟨e, ht, ?_⟩
      have hprefix : (Text.dropTrailingSlashes (v.baseUrl e)).toList <+:
          (e.pageUrl (v.baseUrl e) (e.release p.identifier version)).toList := by
        rw [Ecosystem.pageUrl, String.toList_append]
        exact List.prefix_append _ _
      rw [asked, hv, Limits.runLookup]
      cases hq : (Web.Request.plain
          (e.pageUrl (v.baseUrl e) (e.release p.identifier version))).target with
      | error failure => rw [Lookup.run_ask_of_error hq]; exact ⟨rfl, .inl rfl⟩
      | ok u => rw [Lookup.run_ask hq]; exact ⟨rfl, .inr ⟨_, rfl, hprefix⟩⟩

end Verifier

end Catalog
