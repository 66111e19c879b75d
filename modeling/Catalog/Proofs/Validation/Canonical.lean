import Catalog.Proofs.Canonical.Image
import Catalog.Proofs.Canonical.InPlace
import Catalog.Validation.Server

/-!
# Canonical forms of valid servers

A server that passes the checks passes them in its canonical form too, with the same findings. The
checks and canonicalization do not agree on what an older field is: the checks tolerate an empty
one, and canonicalization drops it and completes the image reference. For a server that passes, the
completed reference is to the same image, so the checks see no difference.

## Main results

* `Package.parse_canonicalize` — the image of a package that passes the checks stays the same.
* `Package.findings_canonicalize` — the findings on one package.
* `Server.findings_canonicalize` — the findings on a server.
* `Server.canonicalize_keeps_valid` — **the canonical form of a valid server is valid**, with the
  same warnings and the same images.
-/

namespace Catalog

open ImageReference

/-! ### Findings without errors -/

namespace Findings

variable {a b : Findings} {place : String} {problem : Problem}

@[simp] theorem isValid_nil : isValid [] = true := rfl

@[simp] theorem isValid_append_iff :
    isValid (a ++ b) = true ↔ a.isValid = true ∧ b.isValid = true := by
  simp [isValid]

@[simp] theorem isValid_error : isValid (error place problem) = false := rfl

/-- Where all findings are errors, there must be none. -/
theorem isValid_iff_eq_nil (h : ∀ f ∈ a, f.severity = .error) : a.isValid = true ↔ a = [] := by
  have herrors : a.errors = a := by
    refine List.filter_eq_self.mpr fun f hf => ?_
    simp [h f hf]
  rw [isValid, herrors, List.isEmpty_iff]

end Findings

/-! ### Findings on the elements of an array -/

section

variable {α : Type} {array : String} {check : α → String → Findings} {f : α → α} {i : Nat}
  {as : List α} {a : α}

/-- Elements whose findings stay the same keep their findings together. -/
theorem elementFindings_map
    (h : ∀ a place, (check a place).isValid = true → check (f a) place = check a place)
    (hvalid : (elementFindings array check i as).isValid = true) :
    elementFindings array check i (as.map f) = elementFindings array check i as := by
  induction as generalizing i with
  | nil => rfl
  | cons a as ih =>
    rw [elementFindings, Findings.isValid_append_iff] at hvalid
    rw [List.map_cons, elementFindings, elementFindings, h a _ hvalid.1, ih hvalid.2]

/-- Every element passes the check at its place. -/
theorem exists_isValid_of_mem (hvalid : (elementFindings array check i as).isValid = true)
    (ha : a ∈ as) : ∃ place, (check a place).isValid = true := by
  induction as generalizing i with
  | nil => cases ha
  | cons b as ih =>
    rw [elementFindings, Findings.isValid_append_iff] at hvalid
    rcases List.mem_cons.mp ha with rfl | hmem
    · exact ⟨_, hvalid.1⟩
    · exact ih hvalid.2 hmem

end

/-! ### Images -/

namespace Package

variable {p : Package} {r : ImageReference} {strict : Bool} {place : String}

theorem ForbidsOnlyBlank.canonicalize (h : p.ForbidsOnlyBlank) :
    p.canonicalize.ForbidsOnlyBlank := by
  intro f hf
  rw [canonicalize_registryType] at hf
  rcases legacyField?_canonicalize (p := p) f with hnone | hsame
  · exact Or.inl hnone
  · rw [hsame]
    exact h f hf

/-- The image of a package that passes the checks stays the same: its older fields are empty, so
that they name the default registry, and its reference is not bare, so that no tag is added. -/
theorem parse_canonicalize (htype : p.registryType = .oci) (hblank : p.ForbidsOnlyBlank)
    (hbare : ¬ ImageName.isBare p.identifier = true) (hr : parse p.identifier = .ok r) :
    parse p.canonicalize.identifier = .ok r := by
  have hempty : ∀ f s, p.legacyField? f = some s → s = "" := by
    intro f s hs
    have hforbids : p.registryType.forbids f = true := by rw [htype]; rfl
    rcases hblank f hforbids with hnone | hsome
    · cases hs.symm.trans hnone
    · exact Option.some.inj (hs.symm.trans hsome)
  have hhost : p.legacyHost = defaultRegistry := by
    refine legacyHost_eq_default fun b hb => ?_
    rw [hempty .registryBaseUrl b hb]
    decide
  have htag := legacyTag_mem_tagPattern fun version hv => Or.inl (hempty .version version hv)
  obtain ⟨w, hw, rfl⟩ := exists_spells_of_parse hr
  rw [canonicalize_identifier]
  split
  · rw [parse_fullIdentifier hw hhost htag, if_neg (mt hw.isBare_iff.mpr hbare)]
  · exact hr

/-! ### Findings on a package -/

theorem forbiddenFindings_eq_nil_iff : p.forbiddenFindings place = [] ↔ p.ForbidsOnlyBlank := by
  rw [forbiddenFindings, List.map_eq_nil_iff, List.filter_eq_nil_iff, ForbidsOnlyBlank]
  refine forall_congr' fun f => ?_
  rw [forbiddenFields, List.mem_filter]
  cases p.legacyField? f <;> simp [LegacyField.mem_all]

theorem isValid_forbiddenFindings_iff :
    (p.forbiddenFindings place).isValid = true ↔ p.ForbidsOnlyBlank := by
  rw [← forbiddenFindings_eq_nil_iff, Findings.isValid_iff_eq_nil]
  intro finding hfinding
  obtain ⟨f, -, rfl⟩ := List.mem_map.mp hfinding
  rfl

/-- The reference of an image without findings is complete and well formed. -/
theorem isValid_imageFindings_iff (hname : p.identifier ≠ "") :
    (p.imageFindings place).isValid = true ↔
      ¬ ImageName.isBare p.identifier = true ∧ ∃ r, parse p.identifier = .ok r := by
  rw [imageFindings, if_neg (by simpa using hname), Findings.isValid_append_iff]
  refine and_congr ?_ ?_
  · split <;> simp [*]
  · split <;> simp [*]

theorem imageFindings_eq_nil (hname : p.identifier ≠ "")
    (hbare : ¬ ImageName.isBare p.identifier = true) (hr : parse p.identifier = .ok r) :
    p.imageFindings place = [] := by
  rw [imageFindings, if_neg (by simpa using hname), if_neg hbare, hr]
  rfl

/-- An image without findings has none in its canonical form. -/
theorem imageFindings_canonicalize (htype : p.registryType = .oci) (hname : p.identifier ≠ "")
    (hblank : p.ForbidsOnlyBlank) (hvalid : (p.imageFindings place).isValid = true) :
    p.canonicalize.imageFindings place = p.imageFindings place := by
  obtain ⟨hbare, r, hr⟩ := (isValid_imageFindings_iff hname).mp hvalid
  have hcanonical := parse_canonicalize htype hblank hbare hr
  have hname' := mt canonicalize_identifier_eq_empty_iff.mp hname
  -- whether a reference is bare shows in what it is read as
  have hbare' : ¬ ImageName.isBare p.canonicalize.identifier = true := by
    rwa [isBare_iff_of_parse hcanonical, ← isBare_iff_of_parse hr]
  rw [imageFindings_eq_nil hname hbare hr, imageFindings_eq_nil hname' hbare' hcanonical]

theorem registryFindings_canonicalize (hname : p.identifier ≠ "") (hblank : p.ForbidsOnlyBlank)
    (hvalid : (p.registryFindings place).isValid = true) :
    p.canonicalize.registryFindings place = p.registryFindings place := by
  rw [registryFindings, registryFindings, canonicalize_registryType]
  rw [registryFindings] at hvalid
  cases htype : p.registryType with
  | oci =>
    rw [htype] at hvalid
    exact imageFindings_canonicalize htype hname hblank hvalid
  | mcpb => simp only [hashFindings, canonicalize_fileSha256, htype, if_pos]
  | other name => rfl
  | _ =>
    simp [versionFindings, canonicalize_version, tellsAll, isLegacyImage, htype]

/-- The parts of a check that a package passes. -/
theorem parts_of_isValid (h : (p.findings strict place).isValid = true) :
    p.identifier ≠ "" ∧ p.ForbidsOnlyBlank ∧ (p.registryFindings place).isValid = true := by
  rw [findings] at h
  simp only [Findings.isValid_append_iff, isValid_forbiddenFindings_iff] at h
  obtain ⟨⟨⟨hname, hblank⟩, hregistry⟩, -⟩ := h
  refine ⟨?_, hblank, hregistry⟩
  rintro hempty
  simp [hempty] at hname

/-- A package that passes the checks has the same findings in its canonical form. -/
theorem findings_canonicalize (h : (p.findings strict place).isValid = true) :
    p.canonicalize.findings strict place = p.findings strict place := by
  obtain ⟨hname, hblank, hregistry⟩ := parts_of_isValid h
  have hname' := mt canonicalize_identifier_eq_empty_iff.mp hname
  rw [findings, findings, registryFindings_canonicalize hname hblank hregistry,
    forbiddenFindings_eq_nil_iff.mpr hblank, forbiddenFindings_eq_nil_iff.mpr hblank.canonicalize,
    if_neg (by simpa using hname'), if_neg (by simpa using hname), canonicalize_transport]
  -- the standard transport has no findings
  cases p.transport <;> rfl

/-- An image that passes the checks is the same image in its canonical form. -/
theorem exists_parse_of_isValid (h : (p.findings strict place).isValid = true)
    (htype : p.registryType = .oci) :
    ∃ r, parse p.identifier = .ok r ∧ parse p.canonicalize.identifier = .ok r := by
  obtain ⟨hname, hblank, hregistry⟩ := parts_of_isValid h
  rw [registryFindings, htype, isValid_imageFindings_iff hname] at hregistry
  obtain ⟨hbare, r, hr⟩ := hregistry
  exact ⟨r, hr, parse_canonicalize htype hblank hbare hr⟩

end Package

/-! ### Findings on a server -/

namespace Server

variable {s : Server} {strict : Bool}

theorem packageList_canonicalize :
    s.canonicalize.packageList = s.packageList.map Package.canonicalize := by
  rw [canonicalize, packageList, packageList]
  cases s.packages <;> rfl

/-- The packages of a server that passes the checks pass them. -/
theorem isValid_packages (h : (s.findings strict).isValid = true) :
    (elementFindings "packages" (fun p => p.findings strict) 0 s.packageList).isValid = true := by
  rw [findings, Findings.isValid_append_iff, Findings.isValid_append_iff] at h
  exact h.1.2

/-- A server that passes the checks has the same findings in its canonical form. -/
theorem findings_canonicalize (h : (s.findings strict).isValid = true) :
    s.canonicalize.findings strict = s.findings strict := by
  have hsame : elementFindings "packages" (fun p => p.findings strict) 0
        (s.packageList.map Package.canonicalize) =
      elementFindings "packages" (fun p => p.findings strict) 0 s.packageList :=
    elementFindings_map (fun _ _ => Package.findings_canonicalize) (isValid_packages h)
  rw [findings, packageList_canonicalize, hsame]
  rfl

/-- **The canonical form of a valid server is valid**, with the same warnings, and each image is
the same image. -/
theorem canonicalize_keeps_valid (h : (s.findings strict).isValid = true) :
    (s.canonicalize.findings strict).isValid = true ∧
      (s.canonicalize.findings strict).warnings = (s.findings strict).warnings ∧
      List.Forall₂ (fun p q : Package => p.registryType = .oci →
          ∃ r, parse p.identifier = .ok r ∧ parse q.identifier = .ok r)
        s.packageList s.canonicalize.packageList := by
  rw [findings_canonicalize h]
  refine ⟨h, rfl, ?_⟩
  rw [packageList_canonicalize, List.forall₂_map_right_iff, List.forall₂_same]
  intro p hp htype
  obtain ⟨place, hplace⟩ := exists_isValid_of_mem (isValid_packages h) hp
  exact Package.exists_parse_of_isValid hplace htype

/-- A server with an image whose version is empty and with a package for a registry without
checks. -/
def toleratedServer : Server :=
  ⟨"a/b", none, none, some [{ Package.ofIdentifier .oci "ns/img:1.0" with version := some "" },
    .ofIdentifier (.other "cargo") "app"], none, []⟩

theorem canonicalize_keeps_valid_toleratedServer :
    (toleratedServer.findings true).isValid = true ∧
      (toleratedServer.canonicalize.findings true).isValid = true ∧
      (toleratedServer.canonicalize.findings true).warnings =
        [⟨.warning, "packages[1].registryType", .unknownRegistry "cargo"⟩] ∧
      List.Forall₂ (fun p q : Package => p.registryType = .oci →
          ∃ r, parse p.identifier = .ok r ∧ parse q.identifier = .ok r)
        toleratedServer.packageList toleratedServer.canonicalize.packageList ∧
      toleratedServer.canonicalize.packageList.map (·.identifier) =
        ["docker.io/ns/img:1.0", "app"] := by
  have hvalid : (toleratedServer.findings true).isValid = true := by decide
  obtain ⟨hcanonical, hwarnings, himages⟩ := canonicalize_keeps_valid hvalid
  exact ⟨hvalid, hcanonical, hwarnings.trans (by decide), himages, by decide⟩

end Server

end Catalog
