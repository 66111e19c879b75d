import Catalog.Canonical.Document
import Catalog.Proofs.Canonical.Package
import Catalog.Proofs.Package.Shape

/-!
# Canonical forms written back in place

What the members of an object are after the canonical form of its projection was written back: the
identifier is the canonical one, the fields that the canonical form lacks are gone, and a missing
transport is there. Nothing else moves or changes.

## Main definitions

* `InPlace.drops` — a field is removed.
* `InPlace.dropFields` — the fields are removed one after another.
* `InPlace.writtenNames` — the members that may change.

## Main results

* `value?_writeBack` — **the members after writing back.**
* `project?_writeBack` — the projection after writing back is the canonical form.
-/

namespace Catalog

open Json (Members)
open Json.Members

namespace Package

variable {p : Package}

/-- A field of the canonical form is that of the package, if there is one. -/
theorem legacyField?_canonicalize (f : LegacyField) :
    p.canonicalize.legacyField? f = none ∨
      p.canonicalize.legacyField? f = p.legacyField? f := by
  cases f
  · by_cases h : p.tellsAll <;> simp [legacyField?, h, canonicalize_registryBaseUrl]
  · by_cases h : p.tellsAll <;> simp [legacyField?, h, canonicalize_version]
  · by_cases h : p.registryType = .mcpb <;> simp [legacyField?, h, canonicalize_fileSha256]

/-- The canonical form has an identifier just when the package has one. -/
theorem canonicalize_identifier_eq_empty_iff :
    p.canonicalize.identifier = "" ↔ p.identifier = "" := by
  rw [canonicalize_identifier]
  split
  · next hlegacy =>
    have hname := (isLegacyImage_eq_true_iff.mp hlegacy).2.1
    exact iff_of_false (fullIdentifier_ne_empty hname) hname
  · rfl

end Package

namespace InPlace

variable {ms acc : Members} {c p : Package} {drop : LegacyField → Bool} {fs : List LegacyField}
  {f : LegacyField} {key : String}

/-- The member of the field has a value, and the canonical form none. -/
def drops (ms : Members) (c : Package) (f : LegacyField) : Bool :=
  (match ms.value? f.name with
    | none | some .null => false
    | some _ => true) && (c.legacyField? f).isNone

theorem drops_eq_true_iff : drops ms c f = true ↔
    (∃ v, ms.value? f.name = some v ∧ v ≠ .null) ∧ c.legacyField? f = none := by
  rw [drops]
  cases hv : ms.value? f.name with
  | none => simp
  | some v => cases v <;> simp

/-- Removes the fields one after another. -/
def dropFields (drop : LegacyField → Bool) (fs : List LegacyField) (acc : Members) : Members :=
  fs.foldl (fun acc f => if drop f then Members.remove acc f.name else acc) acc

/-- The object with the identifier given, if it is not empty. -/
def withIdentifier (ms : Members) (identifier : String) : Members :=
  if identifier.isEmpty then ms else ms.set "identifier" (.str identifier)

@[simp] theorem dropFields_nil : dropFields drop [] acc = acc := rfl

theorem dropFields_cons : dropFields drop (f :: fs) acc =
    dropFields drop fs (if drop f then Members.remove acc f.name else acc) := rfl

theorem dropFields_eq_self (h : ∀ f ∈ fs, drop f = false) : dropFields drop fs acc = acc := by
  induction fs with
  | nil => rfl
  | cons f fs ih =>
    rw [List.forall_mem_cons] at h
    rw [dropFields_cons, if_neg (by simp [h.1]), ih h.2]

theorem keys_dropFields_nodup (h : acc.keys.Nodup) : (dropFields drop fs acc).keys.Nodup := by
  induction fs generalizing acc with
  | nil => exact h
  | cons f fs ih =>
    rw [dropFields_cons]
    split
    · exact ih (keys_remove_nodup h)
    · exact ih h

theorem value?_dropFields (h : acc.keys.Nodup) : (dropFields drop fs acc).value? key =
    if ∃ f ∈ fs, drop f = true ∧ f.name = key then none else acc.value? key := by
  induction fs generalizing acc with
  | nil => simp
  | cons f fs ih =>
    rw [dropFields_cons]
    by_cases hdrop : drop f = true
    · rw [if_pos hdrop, ih (keys_remove_nodup h), value?_remove h]
      by_cases hname : f.name = key <;> simp [hdrop, hname]
    · rw [if_neg hdrop, ih h]
      simp [hdrop]

/-! ### The members after writing back -/

/-- Whether an object has no transport. -/
def lacksTransport (ms : Members) : Bool :=
  match ms.value? "transport" with
  | none | some .null => true
  | some _ => false

theorem lacksTransport_iff : lacksTransport ms = true ↔
    ms.value? "transport" = none ∨ ms.value? "transport" = some .null := by
  rw [lacksTransport]
  cases hv : ms.value? "transport" with
  | none => simp
  | some v => cases v <;> simp

theorem writeBack_eq {t : Transport} (ht : c.transport = some t) : writeBack ms c =
    if lacksTransport ms then
      (dropFields (drops ms c) LegacyField.all (withIdentifier ms c.identifier)).set "transport"
        t.toJson
    else dropFields (drops ms c) LegacyField.all (withIdentifier ms c.identifier) := by
  rw [writeBack, ht, lacksTransport]
  cases hv : ms.value? "transport" with
  | none => rfl
  | some v => cases v <;> rfl

theorem keys_withIdentifier_nodup {identifier : String} (h : ms.keys.Nodup) :
    (withIdentifier ms identifier).keys.Nodup := by
  rw [withIdentifier]
  split
  · exact h
  · exact keys_set_nodup h

theorem keys_writeBack_nodup {t : Transport} (ht : c.transport = some t) (h : ms.keys.Nodup) :
    (writeBack ms c).keys.Nodup := by
  rw [writeBack_eq ht]
  split
  · exact keys_set_nodup (keys_dropFields_nodup (keys_withIdentifier_nodup h))
  · exact keys_dropFields_nodup (keys_withIdentifier_nodup h)

/-- **The members after writing back.** -/
theorem value?_writeBack {t : Transport} (ht : c.transport = some t) (h : ms.keys.Nodup) :
    (writeBack ms c).value? key =
      if key = "transport" ∧ lacksTransport ms then some t.toJson
      else if ∃ f ∈ LegacyField.all, drops ms c f = true ∧ f.name = key then none
      else if key = "identifier" ∧ c.identifier ≠ "" then some (.str c.identifier)
      else ms.value? key := by
  -- the members before a transport is added
  have hdropped : (dropFields (drops ms c) LegacyField.all (withIdentifier ms c.identifier)).value?
      key = if ∃ f ∈ LegacyField.all, drops ms c f = true ∧ f.name = key then none
        else if key = "identifier" ∧ c.identifier ≠ "" then some (.str c.identifier)
        else ms.value? key := by
    rw [value?_dropFields (keys_withIdentifier_nodup h)]
    congr 1
    rw [withIdentifier]
    by_cases hid : c.identifier = ""
    · simp [hid]
    · rw [if_neg (by simpa using hid), value?_set]
      simp [hid, eq_comm]
  rw [writeBack_eq ht]
  by_cases hlacks : lacksTransport ms
  · rw [if_pos hlacks, value?_set, hdropped]
    by_cases hkey : key = "transport"
    · rw [if_pos hkey.symm, if_pos ⟨hkey, hlacks⟩]
    · have hother : ¬ (key = "transport" ∧ lacksTransport ms = true) := fun h => hkey h.1
      rw [if_neg (Ne.symm hkey), if_neg hother]
  · have hother : ¬ (key = "transport" ∧ lacksTransport ms = true) := fun h => hlacks h.2
    rw [if_neg hlacks, hdropped, if_neg hother]

/-- The names of the members that writing back may change. -/
def writtenNames : List String := "transport" :: "identifier" :: LegacyField.all.map (·.name)

/-- All other members are kept. -/
theorem value?_writeBack_of_notMem {t : Transport} (ht : c.transport = some t) (h : ms.keys.Nodup)
    (hkey : key ∉ writtenNames) : (writeBack ms c).value? key = ms.value? key := by
  obtain ⟨htransport, hid, hfields⟩ : key ≠ "transport" ∧ key ≠ "identifier" ∧
      ∀ f ∈ LegacyField.all, f.name ≠ key := by
    simpa [writtenNames] using hkey
  rw [value?_writeBack ht h, if_neg fun h => htransport h.1, if_neg, if_neg fun h => hid h.1]
  rintro ⟨f, hf, -, hname⟩
  exact hfields f hf hname

theorem value?_writeBack_identifier {t : Transport} (ht : c.transport = some t)
    (h : ms.keys.Nodup) : (writeBack ms c).value? "identifier" =
      if c.identifier = "" then ms.value? "identifier" else some (.str c.identifier) := by
  rw [value?_writeBack ht h, if_neg (by simp), if_neg]
  · by_cases hid : c.identifier = "" <;> simp [hid]
  · rintro ⟨f, -, -, hname⟩
    cases f <;> exact absurd hname (by decide)

theorem value?_writeBack_field {t : Transport} (ht : c.transport = some t)
    (h : ms.keys.Nodup) (f : LegacyField) : (writeBack ms c).value? f.name =
      if drops ms c f then none else ms.value? f.name := by
  have hid : f.name ≠ "identifier" := by cases f <;> decide
  have htransport : f.name ≠ "transport" := by cases f <;> decide
  rw [value?_writeBack ht h, if_neg fun h => htransport h.1]
  by_cases hdrop : drops ms c f = true
  · rw [if_pos ⟨f, f.mem_all, hdrop, rfl⟩, if_pos hdrop]
  · rw [if_neg, if_neg fun h => hid h.1, if_neg hdrop]
    rintro ⟨g, -, hg, hname⟩
    exact hdrop (LegacyField.name_inj hname ▸ hg)

theorem value?_writeBack_transport {t : Transport} (ht : c.transport = some t)
    (h : ms.keys.Nodup) : (writeBack ms c).value? "transport" =
      if lacksTransport ms then some t.toJson else ms.value? "transport" := by
  rw [value?_writeBack ht h]
  by_cases hlacks : lacksTransport ms
  · rw [if_pos ⟨rfl, hlacks⟩, if_pos hlacks]
  · rw [if_neg fun h => hlacks h.2, if_neg, if_neg fun h => absurd h.1 (by decide), if_neg hlacks]
    rintro ⟨f, -, -, hname⟩
    cases f <;> exact absurd hname (by decide)

/-- A transport that is given is kept. -/
theorem value?_writeBack_of_given {t : Transport} {w : Json} (ht : c.transport = some t)
    (h : ms.keys.Nodup) (hw : ms.given? "transport" = some w) :
    (writeBack ms c).value? "transport" = some w := by
  obtain ⟨hvalue, hnull⟩ := given?_eq_some_iff.mp hw
  have hgiven : ¬ lacksTransport ms = true := by
    rw [lacksTransport_iff, hvalue]
    simpa using hnull
  rw [value?_writeBack_transport ht h, if_neg hgiven, hvalue]

/-! ### The projection after writing back -/

/-- After the canonical form was written back the fields are those of the canonical form. -/
theorem textMember?_writeBack (h : ms.keys.Nodup) (hp : Package.project? (.obj ms) = some p)
    (f : LegacyField) : Package.textMember? (writeBack ms p.canonicalize) f.name =
      some (p.canonicalize.legacyField? f) := by
  have hstored := Package.textMember?_of_project? hp f
  have hvalue := value?_writeBack_field (Package.canonicalize_transport p) h f
  rw [Package.textMember?_eq_some_iff]
  by_cases hdrop : drops ms p.canonicalize f = true
  · rw [if_pos hdrop] at hvalue
    exact Or.inl ⟨Or.inl hvalue, (drops_eq_true_iff.mp hdrop).2⟩
  · rw [if_neg hdrop] at hvalue
    rw [hvalue]
    rcases Package.legacyField?_canonicalize (p := p) f with hnone | hsame
    · -- nothing was stored, or it would have been dropped
      refine Or.inl ⟨?_, hnone⟩
      by_contra hsome
      apply hdrop
      rw [not_or] at hsome
      obtain ⟨v, hv⟩ := Option.ne_none_iff_exists'.mp hsome.1
      exact drops_eq_true_iff.mpr ⟨⟨v, hv, fun hnull => hsome.2 (hnull ▸ hv)⟩, hnone⟩
    · rw [hsame]
      exact Package.textMember?_eq_some_iff.mp hstored

/-- After the canonical form was written back the projection is the canonical form. -/
theorem project?_writeBack (h : ms.keys.Nodup) (hp : Package.project? (.obj ms) = some p) :
    Package.project? (.obj (writeBack ms p.canonicalize)) =
      some { p.canonicalize with transport := none } := by
  have ht := Package.canonicalize_transport p
  have hfield := textMember?_writeBack h hp
  obtain ⟨type, url, identifier, version, hash, htype, hurl, hid, hversion, hhash, heq⟩ :=
    Package.project?_eq_some_iff.mp hp
  have htype' : string? (writeBack ms p.canonicalize) "registryType" = some type := by
    rw [string?,
      value?_writeBack_of_notMem ht h (by decide)]
    exact htype
  have hid' : ∃ o, Package.textMember? (writeBack ms p.canonicalize) "identifier" = some o ∧
      o.getD "" = p.canonicalize.identifier := by
    have hvalue := value?_writeBack_identifier ht h
    by_cases hempty : p.canonicalize.identifier = ""
    · have hnone : identifier.getD "" = "" := by
        have := Package.canonicalize_identifier_eq_empty_iff.mp hempty
        rwa [heq] at this
      refine ⟨identifier, ?_, by rw [hempty, hnone]⟩
      rw [if_pos hempty] at hvalue
      rw [Package.textMember?, hvalue]
      exact hid
    · rw [if_neg hempty] at hvalue
      refine ⟨some p.canonicalize.identifier, ?_, rfl⟩
      rw [Package.textMember?, hvalue]
  obtain ⟨o, ho, hname⟩ := hid'
  refine Package.project?_eq_some_iff.mpr ⟨type, _, o, _, _, htype', hfield .registryBaseUrl, ho,
    hfield .version, hfield .fileSha256, ?_⟩
  rw [hname]
  subst heq
  simp [Package.canonicalize_eq_fields, Package.legacyField?]

end InPlace

/-! ### One element of a `packages` array -/

section

variable {v : Json} {ms : Members} {p : Package} {d : Json.Defect}

theorem canonicalizePackage_of_ok (h : Package.ofJson v = .ok p) :
    canonicalizePackage v = if p.canonicalize = p then v else p.canonicalize.toJson := by
  rw [canonicalizePackage, h]

theorem canonicalizePackage_of_error (h : Package.ofJson v = .error d) :
    canonicalizePackage v = canonicalizeInPlace v := by
  rw [canonicalizePackage, h]

theorem canonicalizeInPlace_of_some (h : Package.project? (.obj ms) = some p) :
    canonicalizeInPlace (.obj ms) = .obj (writeBack ms p.canonicalize) := by
  simp only [canonicalizeInPlace, h]

theorem canonicalizeInPlace_of_none (h : Package.project? v = none) :
    canonicalizeInPlace v = v := by
  cases v <;> simp [canonicalizeInPlace, h]

end

end Catalog
