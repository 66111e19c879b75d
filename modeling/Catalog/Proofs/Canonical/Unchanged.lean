import Catalog.Proofs.Canonical.InPlace
import Catalog.Proofs.Json.Same

/-!
# Canonical documents that are the same as before

A migration skips a record when the canonical packages are the same as the stored ones up to the
order of members. Then they are the stored ones to the letter: whatever canonicalization changes
shows in the members.

## Main results

* `canonicalizePackage_eq_of_same` — one element of a `packages` array.
* `canonicalizePackages_same_iff` — **a `packages` array is the same only if nothing changed.**
-/

namespace Catalog

open Json (Members)
open Json.Members

variable {v : Json} {ms ms' : Members} {p : Package} {key : String}

/-! ### The members of a package -/

namespace Package

theorem Faithful.value?_legacyField (h : p.Faithful) (f : LegacyField) :
    value? p.toMembers f.name = (p.legacyField? f).map .str := by
  rw [h.value?_toMembers (by cases f <;> decide)]
  cases f <;> simp [knownMembers, value?_append, value?_cons, LegacyField.name, legacyField?]

/-- No key occurs twice in the document of a package, if none does beside the known members. -/
theorem Faithful.keys_toMembers_nodup (h : p.Faithful) (hextra : p.extra.keys.Nodup) :
    (keys p.toMembers).Nodup := by
  rw [toMembers_eq]
  exact keys_append_nodup (by decide) keys_knownMembers_sublist h.extra hextra

/-- A package is canonical already when the members of its canonical form are the same. -/
theorem canonicalize_eq_of_same (hms : ms.keys.Nodup)
    (h : p.canonicalize.toJson.same (.obj ms) = true) (hp : p = ofMembers ms) :
    p.canonicalize = p := by
  have hfaithful : p.canonicalize.Faithful := by
    rw [hp]
    exact (faithful_ofMembers ms).canonicalize
  have hextra : p.canonicalize.extra.keys.Nodup := by
    rw [canonicalize_eq_fields, hp]
    exact keys_others_nodup hms _
  have hnone := Json.value?_eq_none_iff_of_same (hfaithful.keys_toMembers_nodup hextra) h
  -- a field that was removed would be missing on one side
  have hfield : ∀ f, p.canonicalize.legacyField? f = p.legacyField? f := by
    intro f
    refine (legacyField?_canonicalize f).elim (fun hf => ?_) id
    have hstored : ms.value? f.name = none :=
      (hnone f.name).mpr (by rw [hfaithful.value?_legacyField, hf]; rfl)
    have hstring : ms.string? f.name = none := by rw [string?, hstored]
    rw [hf, hp]
    cases f
    · exact hstring.symm
    · exact hstring.symm
    · exact hstring.symm
  -- texts are the same only if they are equal
  have hid : p.canonicalize.identifier = p.identifier := by
    by_cases hempty : p.canonicalize.identifier = ""
    · rw [hempty, canonicalize_identifier_eq_empty_iff.mp hempty]
    · have hvalue := hfaithful.value?_identifier
      rw [identifierMember, if_neg (by simpa using hempty)] at hvalue
      obtain ⟨w, hw, hsame⟩ := Json.value?_of_same h hvalue
      obtain rfl := Json.same_str_iff.mp hsame
      have hstring : ms.string? "identifier" = some p.canonicalize.identifier := by
        rw [string?, hw]
      conv => rhs; rw [hp]
      exact (congrArg (·.getD "") hstring).symm
  have htransport : p.canonicalize.transport = p.transport := by
    rw [canonicalize_transport]
    cases ht : p.transport with
    | some t => rfl
    | none =>
      -- a transport that was added would be missing on one side
      have hvalue := hfaithful.value?_transport
      rw [canonicalize_transport] at hvalue
      obtain ⟨w, hw, hsame⟩ := Json.value?_of_same h hvalue
      obtain ⟨ns, rfl⟩ := Json.exists_obj_of_same hsame
      rw [hp, ofMembers, object?, hw] at ht
      cases ht
  calc p.canonicalize
    _ = { p with
          identifier := p.canonicalize.identifier
          registryBaseUrl := p.canonicalize.legacyField? .registryBaseUrl
          version := p.canonicalize.legacyField? .version
          fileSha256 := p.canonicalize.legacyField? .fileSha256
          transport := p.canonicalize.transport } := by simp [canonicalize_eq_fields, legacyField?]
    _ = p := by rw [hid, hfield, hfield, hfield, htransport]; rfl

end Package

/-! ### Elements and arrays -/

/-- Writing a canonical form back changes nothing when the members are the same afterwards. -/
theorem writeBack_eq_of_same (hms : ms.keys.Nodup)
    (h : (Json.obj (writeBack ms p.canonicalize)).same (.obj ms) = true) :
    writeBack ms p.canonicalize = ms := by
  have ht := Package.canonicalize_transport p
  have hnone := Json.value?_eq_none_iff_of_same (InPlace.keys_writeBack_nodup ht hms) h
  have htransport : ¬ InPlace.lacksTransport ms = true := by
    intro hlacks
    have hvalue := InPlace.value?_writeBack_transport ht hms
    rw [if_pos hlacks] at hvalue
    obtain ⟨w, hw, hsame⟩ := Json.value?_of_same h hvalue
    obtain ⟨ns, rfl⟩ := Json.exists_obj_of_same hsame
    rw [InPlace.lacksTransport_iff, hw] at hlacks
    simp at hlacks
  have hdrops : ∀ f ∈ LegacyField.all, InPlace.drops ms p.canonicalize f = false := by
    intro f _
    rw [← Bool.not_eq_true]
    intro hdrop
    have hvalue := InPlace.value?_writeBack_field ht hms f
    rw [if_pos hdrop, ← hnone] at hvalue
    obtain ⟨⟨v, hv, -⟩, -⟩ := InPlace.drops_eq_true_iff.mp hdrop
    rw [hvalue] at hv
    cases hv
  have hname : InPlace.withIdentifier ms p.canonicalize.identifier = ms := by
    have hvalue := InPlace.value?_writeBack_identifier ht hms
    rw [InPlace.withIdentifier]
    split
    · rfl
    · next hid =>
      rw [if_neg (by simpa using hid)] at hvalue
      obtain ⟨w, hw, hsame⟩ := Json.value?_of_same h hvalue
      obtain rfl := Json.same_str_iff.mp hsame
      exact set_of_value?_eq_some hw
  rw [InPlace.writeBack_eq ht, if_neg htransport, hname, InPlace.dropFields_eq_self hdrops]

/-- An element whose canonical form is the same is kept to the letter. -/
theorem canonicalizePackage_eq_of_same (hv : v.WellFormed)
    (h : (canonicalizePackage v).same v = true) : canonicalizePackage v = v := by
  cases hof : Package.ofJson v with
  | ok p =>
    rw [canonicalizePackage_of_ok hof] at h ⊢
    split at h
    · next hfixed => rw [if_pos hfixed]
    · next hchanged =>
      obtain ⟨ms, rfl, -, hp⟩ := Package.ofJson_eq_ok_iff.mp hof
      exact absurd (Package.canonicalize_eq_of_same (Json.wellFormed_obj_iff.mp hv).1 h hp) hchanged
  | error d =>
    rw [canonicalizePackage_of_error hof] at h ⊢
    cases hp : Package.project? v with
    | none => exact canonicalizeInPlace_of_none hp
    | some p =>
      obtain ⟨ms, rfl⟩ := Package.exists_obj_of_project? hp
      rw [canonicalizeInPlace_of_some hp] at h ⊢
      rw [writeBack_eq_of_same (Json.wellFormed_obj_iff.mp hv).1 h]

/-- **A canonical `packages` array is the same as before only if nothing changed.** -/
theorem canonicalizePackages_same_iff (hv : v.WellFormed) :
    (canonicalizePackages v).same v = true ↔ canonicalizePackages v = v := by
  refine ⟨fun h => ?_, fun h => by rw [h]; exact hv.same_self⟩
  cases v with
  | arr xs =>
    rw [canonicalizePackages] at h ⊢
    rw [Json.same, Json.sameItems_iff, List.forall₂_map_left_iff, List.forall₂_same] at h
    have hitems := Json.wellFormed_arr_iff.mp hv
    rw [Json.arr.injEq]
    conv => rhs; rw [← List.map_id xs]
    exact List.map_congr_left fun x hx => canonicalizePackage_eq_of_same (hitems x hx) (h x hx)
  | _ => rfl

end Catalog
