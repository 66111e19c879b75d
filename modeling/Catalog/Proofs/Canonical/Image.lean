import Catalog.Proofs.Canonical.Package

/-!
# The image that a canonical package names

Canonicalization puts the older fields of an image into one reference. Without a registry base URL
this is a reference to the same image, with the tag that the version gives if no tag and no digest
was written. The host of a base URL is put before a name as it is, and then counts as a host only if
it looks like one: otherwise the reference is to an image of the default registry, or of the part of
the host before its first slash.

## Main definitions

* `Parts.onHost` — the same name behind another host.

## Main results

* `Package.canonicalize_keeps_image` — **without a usable base URL the image stays the same.**
* `Package.canonicalize_directs_iff` — **with one, the image is on the host of the URL just when
  this host looks like one and has no slash.**
-/

namespace Catalog

open Text ImageReference

/-- The same name behind another host. -/
def ImageReference.Parts.onHost (w : Parts) (host : List Char) : Parts :=
  { w with host := some host }

namespace Package

variable {p : Package} {v w : Parts} {r r' : ImageReference} {b : String}

/-! ### The older fields of an image -/

theorem legacyTag_eq : p.legacyTag = (p.version.filter (· ≠ "")).getD defaultTag := by
  rw [legacyTag]
  cases p.version with
  | none => rfl
  | some version =>
    by_cases hempty : version = ""
    · simp [hempty, Option.filter]
    · simp [hempty, Option.filter]

/-- The tag of an image is well formed, if its version is or is missing. -/
theorem legacyTag_mem_tagPattern
    (h : ∀ version, p.version = some version → version = "" ∨ version.toList ∈ tagPattern) :
    p.legacyTag.toList ∈ tagPattern := by
  have hdefault : defaultTag.toList ∈ tagPattern := isTag_iff.mp (by decide)
  rw [legacyTag_eq]
  cases hversion : p.version with
  | none => exact hdefault
  | some version =>
    rcases h version hversion with rfl | htag
    · exact hdefault
    · by_cases hempty : version = ""
      · simpa [hempty, Option.filter] using hdefault
      · simpa [hempty, Option.filter] using htag

theorem legacyHost_eq_default (h : ∀ b, p.registryBaseUrl = some b → registryHost b = "") :
    p.legacyHost = defaultRegistry := by
  rw [legacyHost]
  cases hurl : p.registryBaseUrl with
  | none => rfl
  | some b => simp [h b hurl]

theorem legacyHost_eq (hurl : p.registryBaseUrl = some b) (hne : registryHost b ≠ "") :
    p.legacyHost = registryHost b := by
  rw [legacyHost, hurl, Option.map_some]
  exact if_neg (by simpa using hne)

theorem identifier_ne_empty (h : parse p.identifier = .ok r) : p.identifier ≠ "" := by
  intro hempty
  rw [hempty] at h
  cases h

/-! ### The same image -/

/-- On the default registry, a name is the same with and without its host. -/
theorem exists_spells_hostedIdentifier (hw : w.Spells p.identifier)
    (hhost : p.legacyHost = defaultRegistry) : ∃ v : Parts, v.Spells p.hostedIdentifier ∧
      v.reference = w.reference ∧ v.tag = w.tag ∧ v.digest = w.digest := by
  rw [hostedIdentifier]
  cases hwritten : w.host with
  | some host =>
    rw [if_pos (hw.namesHost_iff.mpr (by simp [hwritten]))]
    exact ⟨w, hw, rfl, rfl, rfl⟩
  | none =>
    rw [if_neg (by rw [hw.namesHost_iff, hwritten]; exact Bool.false_ne_true), hhost]
    have hdocker : defaultRegistry.toList ∈ hostPattern := isHost_iff.mp (by decide)
    refine ⟨_, hw.withHost hwritten hdocker (by decide), ?_, rfl, rfl⟩
    have hregistry :
        Parts.registry { w with host := some defaultRegistry.toList } = w.registry := by
      rw [Parts.registry_eq_normalizeRegistry rfl, Parts.registry, hwritten]
      decide
    simp only [Parts.reference, Parts.repository, hregistry]
    rfl

/-- The tag of an image that is written without one is what its version gives. -/
theorem parse_fullIdentifier (hw : w.Spells p.identifier) (hhost : p.legacyHost = defaultRegistry)
    (htag : p.legacyTag.toList ∈ tagPattern) : parse p.fullIdentifier =
      .ok { w.reference with
        tag := if w.tag = none ∧ w.digest = none then some p.legacyTag else w.reference.tag } := by
  obtain ⟨v, hv, href, hvtag, hvdigest⟩ := exists_spells_hostedIdentifier hw hhost
  rw [fullIdentifier, ← hvtag, ← hvdigest]
  by_cases hbare : v.tag = none ∧ v.digest = none
  · rw [if_pos (hv.isBare_iff.mpr hbare), if_pos hbare, (hv.withTag hbare.1 hbare.2 htag).parse_eq,
      ← href]
    simp [Parts.reference, Parts.registry, Parts.repository, Parts.name]
  · rw [if_neg (mt hv.isBare_iff.mp hbare), if_neg hbare, hv.parse_eq, href]

/-- **Without a usable base URL the image stays the same**, with the tag that its version gives if
neither a tag nor a digest is written. -/
theorem canonicalize_keeps_image (htype : p.registryType = .oci) (hr : parse p.identifier = .ok r)
    (hurl : ∀ b, p.registryBaseUrl = some b → registryHost b = "")
    (hversion : ∀ version, p.version = some version →
      version = "" ∨ version.toList ∈ tagPattern) :
    parse p.canonicalize.identifier =
      .ok { r with
        tag := if r.tag = none ∧ r.digest = none then
            some ((p.version.filter (· ≠ "")).getD "latest")
          else r.tag } := by
  have hne := identifier_ne_empty hr
  obtain ⟨w, hw, rfl⟩ := exists_spells_of_parse hr
  have hnone : w.reference.tag = none ∧ w.reference.digest = none ↔
      w.tag = none ∧ w.digest = none := by
    simp [Parts.reference]
  have hfull := parse_fullIdentifier hw (legacyHost_eq_default hurl)
    (legacyTag_mem_tagPattern hversion)
  rw [canonicalize_identifier]
  by_cases hlegacy : p.isLegacyImage = true
  · rw [if_pos hlegacy, hfull, legacyTag_eq]
    simp only [hnone]
    rfl
  · -- with nothing to put into the identifier, a tag or a digest is written in it
    have hbare : ¬ ImageName.isBare p.identifier = true := fun hbare =>
      hlegacy (isLegacyImage_eq_true_iff.mpr ⟨htype, hne, Or.inr (Or.inr hbare)⟩)
    rw [hw.isBare_iff, ← hnone] at hbare
    rw [if_neg hlegacy, hw.parse_eq, if_neg hbare]

/-- An image with a base URL and a version. -/
def olderImage (identifier : String) (baseUrl version : Option String) : Package :=
  { Package.ofIdentifier .oci identifier with registryBaseUrl := baseUrl, version := version }

theorem canonicalize_keeps_image_of_version :
    parse (olderImage "ns/img" (some "https://") (some "1.0")).canonicalize.identifier =
      .ok ⟨"docker.io", "ns/img", some "1.0", none⟩ := by
  have hr : parse "ns/img" = .ok ⟨"docker.io", "ns/img", none, none⟩ := by decide
  refine canonicalize_keeps_image (p := olderImage "ns/img" (some "https://") (some "1.0")) rfl hr
    ?_ ?_
  · rintro _ ⟨⟩
    decide
  · rintro _ ⟨⟩
    exact Or.inr (isTag_iff.mp (by decide))

/-! ### The image of a base URL -/

/-- Behind a host, the full identifier goes on with the name, which ends there. -/
theorem exists_fullIdentifier_eq (hw : w.Spells p.identifier)
    (hhost : ImageName.namesHost p.identifier = false) : ∃ back : List Char,
      p.fullIdentifier.toList = p.legacyHost.toList ++ '/' :: (w.name ++ back) ∧
        ∀ c ∈ back.head?, isNameChar c = false := by
  have hnone : w.host = none := by
    rw [← Option.not_isSome_iff_eq_none, ← hw.namesHost_iff, hhost]
    exact Bool.false_ne_true
  have hidentifier : p.identifier.toList = w.name ++ w.tail := by
    rw [hw.text_eq, Parts.text_eq_append_tail, Parts.path, hnone, hosted]
  rw [fullIdentifier, hostedIdentifier, hhost, if_neg Bool.false_ne_true]
  split
  · refine ⟨w.tail ++ ':' :: p.legacyTag.toList, by simp [hidentifier], fun c hc => ?_⟩
    rw [List.head?_append, List.head?_cons] at hc
    cases htail : w.tail.head? with
    | none =>
      rw [htail] at hc
      obtain rfl := Option.some.inj hc
      decide
    | some d =>
      rw [htail] at hc
      obtain rfl := Option.some.inj hc
      exact Parts.isNameChar_head_tail d htail
  · exact ⟨w.tail, by simp [hidentifier], Parts.isNameChar_head_tail⟩

variable {text : String} {host back : List Char}

/-- A host that looks like one is read as the host, and the name as it is. -/
theorem onHost_of_hostLike (hv : v.Spells text) (hw : w.Spells p.identifier)
    (htext : text.toList = host ++ '/' :: (w.name ++ back))
    (hback : ∀ c ∈ back.head?, isNameChar c = false) (hlike : IsHostLike host)
    (hslash : '/' ∉ host) : v.registry = (w.onHost host).registry ∧
      v.repository = (w.onHost host).repository := by
  have hhost : v.host = some host :=
    hv.host_eq_some_iff.mpr ⟨_, cutFirst_eq_some_iff.mpr ⟨hslash, htext⟩, hlike⟩
  -- both names end where the characters of a name end
  have hrest : v.name ++ v.tail = w.name ++ back := by
    rw [hv.text_eq, Parts.text_eq_append_tail, Parts.path, hhost, hosted] at htext
    simpa using htext
  have hname : v.name = w.name := by
    rw [← hv.wellFormed.takeWhile_isNameChar Parts.isNameChar_head_tail, hrest,
      hw.wellFormed.takeWhile_isNameChar hback]
  have hcomponents : v.components = w.components := by
    rw [← hv.wellFormed.fields_name, hname, hw.wellFormed.fields_name]
  have hregistry : v.registry = (w.onHost host).registry := by
    rw [Parts.registry_eq_normalizeRegistry hhost, Parts.registry_eq_normalizeRegistry rfl]
  refine ⟨hregistry, ?_⟩
  have hname' : (w.onHost host).name = w.name := rfl
  have hcomponents' : (w.onHost host).components = w.components := rfl
  simp only [Parts.repository, hregistry, hname, hname', hcomponents, hcomponents']

/-- **With a base URL the image is on the host of the URL just when this host looks like one and
has no slash.** -/
theorem canonicalize_directs_iff (htype : p.registryType = .oci) (hr : parse p.identifier = .ok r)
    (hhost : ImageName.namesHost p.identifier = false) (hurl : p.registryBaseUrl = some b)
    (hne : registryHost b ≠ "") (hr' : parse p.canonicalize.identifier = .ok r') :
    ∃ w : Parts, w.Spells p.identifier ∧ w.reference = r ∧
      (r'.registry = (w.onHost (registryHost b).toList).registry ∧
          r'.repository = (w.onHost (registryHost b).toList).repository ↔
        IsHostLike (registryHost b).toList ∧ '/' ∉ (registryHost b).toList) := by
  have hlegacy : p.isLegacyImage = true :=
    isLegacyImage_eq_true_iff.mpr ⟨htype, identifier_ne_empty hr, Or.inl (by simp [hurl])⟩
  obtain ⟨w, hw, hwr⟩ := exists_spells_of_parse hr
  obtain ⟨back, hfull, hback⟩ := exists_fullIdentifier_eq hw hhost
  rw [canonicalize_identifier, if_pos hlegacy] at hr'
  obtain ⟨v, hv, rfl⟩ := exists_spells_of_parse hr'
  rw [legacyHost_eq hurl hne] at hfull
  refine ⟨w, hw, hwr, ?_⟩
  constructor
  · rintro ⟨hregistry, -⟩
    by_contra hnot
    rw [Parts.registry_eq_normalizeRegistry (w := w.onHost _) rfl] at hregistry
    exact registry_ne_of_not_hostLike hv hfull hnot hregistry
  · rintro ⟨hlike, hslash⟩
    exact onHost_of_hostLike hv hw hfull hback hlike hslash

theorem canonicalize_directs_to_host :
    ∃ w : Parts, w.Spells "ns/img" ∧ "ghcr.io" = (w.onHost "ghcr.io".toList).registry ∧
      "ns/img" = (w.onHost "ghcr.io".toList).repository := by
  have hr : parse "ns/img" = .ok ⟨"docker.io", "ns/img", none, none⟩ := by decide
  have hhost : registryHost "https://ghcr.io/" = "ghcr.io" := by decide
  have hr' : parse (olderImage "ns/img" (some "https://ghcr.io/") none).canonicalize.identifier =
      .ok ⟨"ghcr.io", "ns/img", some "latest", none⟩ := by decide
  obtain ⟨w, hw, -, hiff⟩ := canonicalize_directs_iff
    (p := olderImage "ns/img" (some "https://ghcr.io/") none) rfl hr (by decide) rfl
    (by rw [hhost]; decide) hr'
  rw [hhost] at hiff
  exact ⟨w, hw, hiff.mpr (by decide)⟩

/-- A host that is a single label is read as the first component of a name on the default
registry. -/
theorem not_canonicalize_directs_to_label :
    ¬ ∀ (p : Package) (w : Parts) (b : String) (r' : ImageReference), p.registryType = .oci →
      w.Spells p.identifier → ImageName.namesHost p.identifier = false →
      p.registryBaseUrl = some b → registryHost b ≠ "" →
      parse p.canonicalize.identifier = .ok r' →
      r'.registry = (w.onHost (registryHost b).toList).registry ∧
        r'.repository = (w.onHost (registryHost b).toList).repository := by
  intro h
  have hr : parse "ns/img" = .ok ⟨"docker.io", "ns/img", none, none⟩ := by decide
  have hhost : registryHost "https://registry" = "registry" := by decide
  have hr' : parse (olderImage "ns/img" (some "https://registry") none).canonicalize.identifier =
      .ok ⟨"docker.io", "registry/ns/img", some "latest", none⟩ := by decide
  obtain ⟨w, hw, -⟩ := exists_spells_of_parse hr
  obtain ⟨hregistry, -⟩ := h (olderImage "ns/img" (some "https://registry") none) w
    "https://registry" _ rfl hw (by decide) rfl (by rw [hhost]; decide) hr'
  rw [hhost, Parts.registry_eq_normalizeRegistry rfl] at hregistry
  exact absurd hregistry (by decide)

end Package

end Catalog
