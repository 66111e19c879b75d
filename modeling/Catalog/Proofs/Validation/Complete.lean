import Catalog.Proofs.Package.Artifact
import Catalog.Proofs.Validation.Canonical
import Catalog.Proofs.Validation.Found

/-!
# Checks of packages and artifacts

A package is looked at twice: when its document is checked, where all problems are reported, and
before its registry is asked, where the first problem is the end. Both agree on which packages have
all that their registries need. An empty field counts as absent in both.

## Main definitions

* `Problem.preventsLookup` — the problems for which a package cannot be looked up.
* `Artifact.IsComplete` — an artifact has all that its registry needs.
* `Findings.AllowLookup` — no finding prevents a lookup.

## Main results

* `Package.allowLookup_registryFindings_iff` — the check for the registry type of an artifact.
* `Package.allowLookup_findings_iff` — the check of a package.
* `Server.findings_agree` — **what is reported of a package in a document is what prevents its
  lookup**, and an image in a valid document has a tag or a digest.
-/

namespace Catalog

/-- Whether a package with the problem cannot be looked up in its registry. -/
def Problem.preventsLookup : Problem → Bool
  | missingIdentifier _ | forbiddenField .. | badReference .. | missingVersion _ | missingFileHash
  | badFileHash _ => true
  | _ => false

/-- An artifact has all that its registry needs: the reference of an image can be read, a bundle has
a hash, and a package of an ecosystem has a version. -/
def Artifact.IsComplete : Artifact → Prop
  | image a => ∃ r, ImageReference.parse a.identifier = .ok r
  | bundle a => ∃ hash, a.fileSha256 = some hash ∧ Text.isHash hash.toList = true
  | npm a | pypi a | nuget a => ∃ version, a.version = some version
  | other .. => True

variable {f : Finding} {strict : Bool} {place : String} {problem : Problem}

namespace Findings

variable {fs gs : Findings}

/-- No finding prevents a lookup. -/
def AllowLookup (fs : Findings) : Prop := ∀ f ∈ fs, f.problem.preventsLookup = false

theorem allowLookup_nil : AllowLookup [] := List.forall_mem_nil _

theorem allowLookup_append_iff : (fs ++ gs).AllowLookup ↔ fs.AllowLookup ∧ gs.AllowLookup :=
  List.forall_mem_append

theorem allowLookup_error_iff :
    (error place problem).AllowLookup ↔ problem.preventsLookup = false := by
  simp [AllowLookup, error]

theorem mem_errors_iff : f ∈ fs.errors ↔ f ∈ fs ∧ f.severity = .error := by
  rw [errors, List.mem_filter, decide_eq_true_iff]

end Findings

open Findings

/-- Nothing that is wrong with a transport prevents a lookup. -/
theorem Transport.allowLookup_findings {t : Transport} :
    (t.findings strict place).AllowLookup := by
  intro f hf
  cases canFind_of_mem hf <;> rfl

namespace Package

variable {p : Package} {a : Artifact}

/-! ### The check for the registry type -/

theorem allowLookup_imageFindings_iff (hname : p.identifier ≠ "") :
    (p.imageFindings place).AllowLookup ↔ ∃ r, ImageReference.parse p.identifier = .ok r := by
  rw [imageFindings, if_neg (by simpa using hname), allowLookup_append_iff]
  -- that a reference is bare does not prevent the lookup
  have hbare : AllowLookup (if ImageName.isBare p.identifier = true then
      Findings.error (place ++ ".identifier") (.bareImage p.identifier p.suggestion?)
    else []) := by
    split
    · exact allowLookup_error_iff.mpr rfl
    · exact allowLookup_nil
  rw [and_iff_right hbare]
  cases ImageReference.parse p.identifier with
  | ok r => exact iff_of_true allowLookup_nil ⟨r, rfl⟩
  | error fault => simp [allowLookup_error_iff, Problem.preventsLookup]

theorem allowLookup_hashFindings_iff : (p.hashFindings place).AllowLookup ↔
    ∃ hash, Artifact.nonEmpty p.fileSha256 = some hash ∧ Text.isHash hash.toList = true := by
  rw [hashFindings]
  simp only [Artifact.nonEmpty_eq_some_iff]
  cases p.fileSha256 with
  | none => simp [allowLookup_error_iff, Problem.preventsLookup]
  | some hash =>
    by_cases hempty : hash = ""
    · simp [hempty, allowLookup_error_iff, Problem.preventsLookup]
    · by_cases hhash : Text.isHash hash.toList = true <;>
        simp [hempty, hhash, allowLookup_error_iff, allowLookup_nil, Problem.preventsLookup]

theorem allowLookup_versionFindings_iff : (p.versionFindings place).AllowLookup ↔
    ∃ version, Artifact.nonEmpty p.version = some version := by
  rw [versionFindings]
  simp only [Artifact.nonEmpty_eq_some_iff]
  cases p.version with
  | none => simp [allowLookup_error_iff, Problem.preventsLookup]
  | some version =>
    by_cases hempty : version = "" <;>
      simp [hempty, allowLookup_error_iff, allowLookup_nil, Problem.preventsLookup]

/-- The check for the registry type allows the lookup of the artifacts that have all that their
registries need. -/
theorem allowLookup_registryFindings_iff (h : Artifact.ofPackage p = .ok a) :
    (p.registryFindings place).AllowLookup ↔ a.IsComplete := by
  have hname := (Artifact.exists_ofPackage_iff.mp ⟨a, h⟩).1
  rw [registryFindings]
  obtain ⟨ht, rfl⟩ | ⟨ht, rfl⟩ | ⟨e, ht, rfl⟩ | ⟨name, ht, rfl⟩ := Artifact.ofPackage_cases h
  · rw [ht]
    exact allowLookup_imageFindings_iff hname
  · rw [ht]
    exact allowLookup_hashFindings_iff
  · rw [ht]
    cases e <;> exact allowLookup_versionFindings_iff
  · rw [ht]
    refine iff_of_true (fun f hf => ?_) trivial
    obtain rfl := mem_warning_iff.mp hf
    rfl

/-! ### The check of a package -/

theorem allowLookup_forbiddenFindings_iff :
    (p.forbiddenFindings place).AllowLookup ↔ p.ForbidsOnlyBlank := by
  constructor
  · intro h
    -- every finding of this check prevents the lookup
    have hnone : p.forbiddenFindings place = [] := by
      refine List.eq_nil_iff_forall_not_mem.mpr fun f hf => ?_
      have hallow := h f hf
      obtain ⟨field, -, rfl⟩ := List.mem_map.mp hf
      cases hallow
    exact forbiddenFindings_eq_nil_iff.mp hnone
  · intro h
    rw [forbiddenFindings_eq_nil_iff.mpr h]
    exact allowLookup_nil

/-- The check of a package allows the lookup just when the package is an artifact that has all that
its registry needs. -/
theorem allowLookup_findings_iff : (p.findings strict place).AllowLookup ↔
    ∃ a, Artifact.ofPackage p = .ok a ∧ a.IsComplete := by
  have htransport : (p.transportFindings strict place).AllowLookup := by
    intro f hf
    obtain ⟨t, -, hf⟩ := mem_transportFindings_iff.mp hf
    exact Transport.allowLookup_findings f hf
  have hname : AllowLookup (if p.identifier.isEmpty then
      Findings.error (place ++ ".identifier") (.missingIdentifier p.registryType)
    else []) ↔ p.identifier ≠ "" := by
    by_cases h : p.identifier = "" <;>
      simp [h, allowLookup_error_iff, allowLookup_nil, Problem.preventsLookup]
  rw [findings_eq, allowLookup_append_iff, and_iff_left htransport, ownFindings,
    allowLookup_append_iff, allowLookup_append_iff, hname, allowLookup_forbiddenFindings_iff,
    ← Artifact.exists_ofPackage_iff]
  constructor
  · rintro ⟨⟨a, ha⟩, hregistry⟩
    exact ⟨a, ha, (allowLookup_registryFindings_iff ha).mp hregistry⟩
  · rintro ⟨a, ha, hcomplete⟩
    exact ⟨⟨a, ha⟩, (allowLookup_registryFindings_iff ha).mpr hcomplete⟩

/-- Whatever prevents a lookup is an error. -/
theorem severity_of_preventsLookup (h : f ∈ p.findings strict place)
    (hprevents : f.problem.preventsLookup = true) : f.severity = .error := by
  rcases mem_findings_iff.mp h with h | ⟨t, -, h⟩
  · cases canFind_of_mem_ownFindings h with
    | unknownRegistry => cases hprevents
    | _ => rfl
  · rw [Transport.allowLookup_findings f h] at hprevents
    cases hprevents

/-- An image that passes its check has a tag or a digest. -/
theorem exists_tag_or_digest_of_isValid (h : (p.findings strict place).isValid = true)
    (htype : p.registryType = .oci) :
    ∃ r, ImageReference.parse p.identifier = .ok r ∧ (r.tag ≠ none ∨ r.digest ≠ none) := by
  obtain ⟨hname, -, hregistry⟩ := parts_of_isValid h
  rw [registryFindings, htype, isValid_imageFindings_iff hname] at hregistry
  obtain ⟨hbare, r, hr⟩ := hregistry
  rw [ImageReference.isBare_iff_of_parse hr, not_and_or] at hbare
  exact ⟨r, hr, hbare⟩

end Package

/-! ### Packages in a document -/

namespace Server

variable {s : Server} {p : Package} {i : Nat}

/-- **What is reported of a package in a document is what prevents its lookup.** No error about a
package of a server is one that prevents a lookup, just when the package is an artifact that has
all that its registry needs. If the server is valid and the package an image, then its reference
has a tag or a digest. -/
theorem findings_agree (hp : s.packageList[i]? = some p) (strict : Bool) :
    ((∀ f ∈ (s.findings strict).errors, f.IsUnder (elementPlace "packages" i) →
        f.problem.preventsLookup = false) ↔
      ∃ a, Artifact.ofPackage p = .ok a ∧ a.IsComplete) ∧
    (p.registryType = .oci → (s.findings strict).isValid = true →
      ∃ r, ImageReference.parse p.identifier = .ok r ∧ (r.tag ≠ none ∨ r.digest ≠ none)) := by
  constructor
  · have hlookup : (p.findings strict (elementPlace "packages" i)).AllowLookup ↔
        ∃ a, Artifact.ofPackage p = .ok a ∧ a.IsComplete := Package.allowLookup_findings_iff
    rw [← hlookup]
    constructor
    · intro h f hf
      obtain ⟨hserver, hunder⟩ := (mem_findings_isUnder_iff hp).mpr hf
      cases hprevents : f.problem.preventsLookup with
      | false => rfl
      | true =>
        have hseverity := Package.severity_of_preventsLookup hf hprevents
        rw [← hprevents]
        exact h f (mem_errors_iff.mpr ⟨hserver, hseverity⟩) hunder
    · intro h f hf hunder
      obtain ⟨hserver, -⟩ := mem_errors_iff.mp hf
      exact h f ((mem_findings_isUnder_iff hp).mp ⟨hserver, hunder⟩)
  · intro htype hvalid
    obtain ⟨place, hplace⟩ := exists_isValid_of_mem (isValid_packages hvalid)
      (List.mem_of_getElem? hp)
    exact Package.exists_tag_or_digest_of_isValid hplace htype

/-- A server with an image and a package without a version. -/
def unversionedServer : Server :=
  ⟨"a/b", none, none, some [.ofIdentifier .oci "ns/img:1.0", .ofIdentifier .npm "app"], none, []⟩

theorem findings_agree_unversionedServer :
    (∀ f ∈ (unversionedServer.findings false).errors, f.IsUnder "packages[0]" →
        f.problem.preventsLookup = false) ∧
      (unversionedServer.findings false).errors =
        [⟨.error, "packages[1].version", .missingVersion .npm⟩] ∧
      (¬ ∃ a, Artifact.ofPackage (.ofIdentifier .npm "app") = .ok a ∧ a.IsComplete) ∧
      (toleratedServer.findings true).isValid = true ∧
      ∃ r, ImageReference.parse "ns/img:1.0" = .ok r ∧ (r.tag ≠ none ∨ r.digest ≠ none) := by
  have himage := (findings_agree (s := unversionedServer) (i := 0) rfl false).1
  have hnpm := (findings_agree (s := unversionedServer) (i := 1) rfl false).1
  have htagged := (findings_agree (s := toleratedServer) (i := 0) rfl true).2
  have herrors : (unversionedServer.findings false).errors =
      [⟨.error, "packages[1].version", .missingVersion .npm⟩] := by decide
  refine ⟨himage.mpr ⟨_, rfl, _, rfl⟩, herrors, fun h => ?_, by decide,
    htagged rfl (by decide)⟩
  -- the error is about the package and prevents its lookup
  have hallow := hnpm.mpr h _ (by rw [herrors]; exact List.mem_singleton_self _)
    ⟨"version", by decide⟩
  cases hallow

end Server

end Catalog
