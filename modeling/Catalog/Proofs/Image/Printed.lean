import Catalog.Proofs.Image.Name
import Mathlib

/-!
# Printed references

The text of a reference writes out what a name may leave out: the registry, the `library` of an
image of the Docker Hub, and the tag that is assumed. What is written out is a reference again. Each
of its parts is found where it was put, whatever the registry and the first component look like, and
so the text is a normal form of the names that are read as this reference.

## Main definitions

* `tagged` — the reference with the tag that is assumed for it.
* `Parts.printed` — the parts in which the reference of some parts is printed.

## Main results

* `normalizeRegistry_mem_hostPattern`, `isHostLike_normalizeRegistry` — a registry reads as a host,
  and as the one that it was (`normalizeRegistry_normalizeRegistry`).
* `Parts.WellFormed.spells_printed` — the text of a reference is written in well-formed parts.
* `parse_text_of_parse` — **the text of a reference that was read is read as the same reference with
  the tag that is assumed**, which has the same text and the same manifest.
-/

namespace Catalog.ImageReference

open Text

variable {text : String} {host : List Char} {w : Parts} {r : ImageReference}

/-! ### The tag that is assumed -/

/-- The reference with the tag that is assumed for it, if there is one. -/
def tagged (r : ImageReference) : ImageReference := { r with tag := r.tagOrDefault }

@[simp] theorem tagOrDefault_tagged (r : ImageReference) :
    r.tagged.tagOrDefault = r.tagOrDefault := by
  obtain ⟨_, _, tag, digest⟩ := r
  cases tag <;> cases digest <;> rfl

@[simp] theorem text_tagged (r : ImageReference) : r.tagged.text = r.text := by
  rw [ImageReference.text, tagOrDefault_tagged]
  rfl

@[simp] theorem manifestName_tagged (r : ImageReference) :
    r.tagged.manifestName = r.manifestName := by
  obtain ⟨_, _, tag, digest⟩ := r
  cases tag <;> cases digest <;> rfl

/-! ### The registry as a host -/

theorem toLower_of_isDigit {c : Char} (h : c.isDigit = true) : c.toLower = c := by
  refine Char.toLower_eq_of_not_isUpper fun hupper => ?_
  have hdigit := isDigit_iff.mp h
  have hupper := isUpper_iff.mp hupper
  omega

theorem isDigit_toLower (c : Char) : c.toLower.isDigit = c.isDigit := by
  rw [Bool.eq_iff_iff]
  constructor
  · intro h
    rwa [← (toLower_eq_iff (isAlpha_of_isDigit h)).mp rfl] at h
  · intro h
    rwa [toLower_of_isDigit h]

theorem isAlphanum_toLower (c : Char) : c.toLower.isAlphanum = c.isAlphanum := by
  rw [Char.isAlphanum, Char.isAlphanum, Char.isAlpha_toLower_eq_isAlpha, isDigit_toLower]

/-- A host is one in any case of its letters. -/
theorem ignores_hostPattern : Ignores Char.toLower hostPattern := by
  have hmark : ∀ {d : Char}, d.isAlpha = false → ∀ c : Char, c.toLower = d ↔ c = d :=
    fun hd _ => toLower_eq_iff hd
  have halnum : Ignores Char.toLower (oneOf Char.isAlphanum) := ignores_oneOf isAlphanum_toLower
  have hinner : Ignores Char.toLower (oneOf isLabelChar) := by
    refine ignores_oneOf fun c => ?_
    have hhyphen : (c.toLower == '-') = (c == '-') := by
      rw [Bool.eq_iff_iff, beq_iff_eq, beq_iff_eq, toLower_eq_iff (by decide)]
    rw [isLabelChar, isLabelChar, isAlphanum_toLower, hhyphen]
  have hlabel : Ignores Char.toLower labelPattern := halnum.mul (hinner.kstar.mul halnum).optional
  have hname : Ignores Char.toLower hostNamePattern :=
    hlabel.mul ((ignores_char (hmark (by decide))).mul hlabel).kstar
  have hdigit : Ignores Char.toLower (oneOf Char.isDigit) := ignores_oneOf isDigit_toLower
  exact hname.mul ((ignores_char (hmark (by decide))).mul hdigit.several).optional

/-- The registry of a host that looks like one is such a host. -/
theorem isHostLike_normalizeRegistry (h : IsHostLike host) :
    IsHostLike (normalizeRegistry host).toList := by
  rw [normalizeRegistry]
  split
  · decide
  · rw [String.toList_ofList]
    rcases h with hdot | hcolon | rfl
    · exact Or.inl ((mem_map_toLower_iff (by decide)).mpr hdot)
    · exact Or.inr (Or.inl ((mem_map_toLower_iff (by decide)).mpr hcolon))
    · decide

theorem normalizeRegistry_mem_hostPattern (h : host ∈ hostPattern) :
    (normalizeRegistry host).toList ∈ hostPattern := by
  rw [normalizeRegistry]
  split
  · exact isHost_iff.mp (by decide)
  · rw [String.toList_ofList]
    exact (ignores_hostPattern host).mpr h

/-- A registry is its own normal form. -/
theorem normalizeRegistry_normalizeRegistry (host : List Char) :
    normalizeRegistry (normalizeRegistry host).toList = normalizeRegistry host := by
  by_cases halias : hubAliases.contains (String.ofList (host.map Char.toLower)) = true
  · have hhub : normalizeRegistry host = defaultRegistry := if_pos halias
    rw [hhub]
    decide
  · have hlower : normalizeRegistry host = String.ofList (host.map Char.toLower) := if_neg halias
    have hagain : (host.map Char.toLower).map Char.toLower = host.map Char.toLower := by
      rw [List.map_map]
      exact List.map_congr_left fun c _ => Char.toLower_toLower_eq_toLower c
    rw [hlower, String.toList_ofList, normalizeRegistry, hagain]
    exact if_neg halias

/-! ### The parts of the text -/

namespace Parts

/-- The components that are printed: on the Docker Hub a single one stands behind `library`. -/
def printedComponents (w : Parts) : List (List Char) :=
  if w.registry = defaultRegistry ∧ w.components.length = 1 then "library".toList :: w.components
  else w.components

/-- The parts in which the reference of some parts is printed. -/
def printed (w : Parts) : Parts where
  host := some w.registry.toList
  components := w.printedComponents
  tag := w.reference.tagOrDefault.map String.toList
  digest := w.digest

theorem registry_printed (w : Parts) : w.printed.registry = w.registry := by
  rw [registry_eq_normalizeRegistry (w := w.printed) rfl, ← normalizeRegistry_host,
    normalizeRegistry_normalizeRegistry]

/-- The name that is printed is the repository. -/
theorem name_printed (w : Parts) : w.printed.name = w.repository.toList := by
  rw [name, printed, printedComponents, repository, defaultRegistry]
  split
  · next hsingle =>
    obtain ⟨c, hc⟩ := List.length_eq_one_iff.mp hsingle.2
    simp [name, hc]
  · simp [name]

/-- A printed name is never taken for one that belongs to `library`. -/
theorem repository_printed (w : Parts) : w.printed.repository = w.repository := by
  have hfull : ¬ (w.registry = defaultRegistry ∧ w.printedComponents.length = 1) := by
    rw [printedComponents]
    split
    · next hsingle => simp [hsingle.2]
    · next hfull => exact hfull
  have hqualified : w.printed.repository = String.ofList w.printed.name := by
    rw [← registry_printed] at hfull
    exact if_neg hfull
  rw [hqualified, name_printed, String.ofList_toList]

theorem text_printed (w : Parts) : w.printed.text = w.reference.text.toList := by
  have hpath : w.printed.path = w.registry.toList ++ '/' :: w.repository.toList := by
    rw [path, name_printed]
    rfl
  have htag : w.printed.tag = w.reference.tagOrDefault.map String.toList := rfl
  have hdigest : w.printed.digest = w.reference.digest.map String.toList := by
    simp [printed, reference]
  rw [Parts.text, hpath, htag, hdigest, ImageReference.text]
  cases w.reference.tagOrDefault <;> cases w.reference.digest <;> simp [marked, reference]

theorem reference_printed (w : Parts) : w.printed.reference = w.reference.tagged := by
  have htag : w.printed.tag.map String.ofList = w.reference.tagOrDefault := by simp [printed]
  calc w.printed.reference
    _ = ⟨w.printed.registry, w.printed.repository, w.printed.tag.map String.ofList,
          w.digest.map String.ofList⟩ := rfl
    _ = w.reference.tagged := by
        rw [registry_printed, repository_printed, htag]
        rfl

namespace WellFormed

variable (h : w.WellFormed)
include h

/-- The registry is written as a host. -/
theorem registry_mem_hostPattern_and_isHostLike :
    w.registry.toList ∈ hostPattern ∧ IsHostLike w.registry.toList := by
  have hhost : w.host.getD defaultRegistry.toList ∈ hostPattern := isHost_iff.mp h.isHost_host
  have hlike : IsHostLike (w.host.getD defaultRegistry.toList) := by
    cases hwritten : w.host with
    | none => decide
    | some b => exact (h.host b hwritten).2
  rw [← normalizeRegistry_host]
  exact ⟨normalizeRegistry_mem_hostPattern hhost, isHostLike_normalizeRegistry hlike⟩

theorem mem_componentPattern_of_mem_printedComponents :
    ∀ c ∈ w.printedComponents, c ∈ componentPattern := by
  intro c hc
  rw [printedComponents] at hc
  split at hc
  · rcases List.mem_cons.mp hc with rfl | hc
    · exact isComponent_iff.mp (by decide)
    · exact h.components c hc
  · exact h.components c hc

/-- A tag that is assumed is a tag. -/
theorem tagOrDefault_mem_tagPattern :
    ∀ t ∈ w.reference.tagOrDefault, t.toList ∈ tagPattern := by
  intro t ht
  cases htag : w.tag with
  | some written =>
    rw [tagOrDefault, reference, htag] at ht
    cases ht
    rw [String.toList_ofList]
    exact h.tag written htag
  | none =>
    cases hdigest : w.digest with
    | some d => simp [tagOrDefault, reference, htag, hdigest] at ht
    | none =>
      have hassumed : t = defaultTag := by
        simpa [tagOrDefault, reference, htag, hdigest, eq_comm] using ht
      subst hassumed
      exact isTag_iff.mp (by decide)

theorem printed : w.printed.WellFormed where
  components_ne_nil := by
    show w.printedComponents ≠ []
    rw [printedComponents]
    split
    · exact List.cons_ne_nil _ _
    · exact h.components_ne_nil
  components := h.mem_componentPattern_of_mem_printedComponents
  host := by
    rintro _ ⟨⟩
    exact h.registry_mem_hostPattern_and_isHostLike
  unhosted := nofun
  tag := by
    intro t ht
    obtain ⟨tag, htag, rfl⟩ := Option.mem_map.mp ht
    exact h.tagOrDefault_mem_tagPattern tag htag
  digest := h.digest

/-- The text of a reference is written in well-formed parts. -/
theorem spells_printed : w.printed.Spells w.reference.text := ⟨h.printed, (text_printed w).symm⟩

end WellFormed

end Parts

/-- **Printing is a normal form.** The text of a reference that was read is read again, as the
reference with the tag that is assumed for it, and that has the text and the manifest that it had. -/
theorem parse_text_of_parse (h : parse text = .ok r) :
    parse r.text = .ok r.tagged ∧ r.tagged.text = r.text ∧
      r.tagged.manifestName = r.manifestName := by
  obtain ⟨w, hw, rfl⟩ := exists_spells_of_parse h
  refine ⟨?_, text_tagged w.reference, manifestName_tagged w.reference⟩
  rw [hw.wellFormed.spells_printed.parse_eq, Parts.reference_printed]

/-- Another name of the Docker Hub, an image of `library` there, and no tag. -/
theorem parse_text_of_parse_hubAlias :
    parse "Index.Docker.io/nginx" = .ok ⟨"docker.io", "library/nginx", none, none⟩ ∧
      parse "docker.io/library/nginx:latest" =
        .ok ⟨"docker.io", "library/nginx", some "latest", none⟩ := by
  have hread :
      parse "Index.Docker.io/nginx" = .ok ⟨"docker.io", "library/nginx", none, none⟩ := by decide
  have htext : ImageReference.text ⟨"docker.io", "library/nginx", none, none⟩ =
      "docker.io/library/nginx:latest" := by decide
  refine ⟨hread, ?_⟩
  rw [← htext]
  exact (parse_text_of_parse hread).1

end Catalog.ImageReference
