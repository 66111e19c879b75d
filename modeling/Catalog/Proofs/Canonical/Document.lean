import Catalog.Proofs.Canonical.InPlace
import Catalog.Proofs.Json.WellFormed

/-!
# Canonical documents canonicalized again

A `packages` array is canonicalized element by element, each of them either as a whole or in place.
On both ways a second run changes nothing, unless the tag of an image spills.

## Main results

* `canonicalizePackage_canonicalizePackage_iff` — one element of a `packages` array.
* `canonicalizePackages_canonicalizePackages_iff` — **a `packages` array.**
* `canonicalize_idempotent_iff` — packages and `packages` arrays at once.
-/

namespace Catalog

open Json (Members)
open Json.Members

variable {v : Json} {ms : Members} {p : Package} {d : Json.Defect}

/-! ### The tag of a projection -/

namespace Package

/-- Whether the tag spills shows in the projection. -/
theorem spillsTag_projection_iff : p.projection.SpillsTag ↔ p.SpillsTag := by
  constructor
  · rintro ⟨image, named, untagged, slash, tag, front⟩
    exact ⟨image, named, untagged, slash, tag, front⟩
  · rintro ⟨image, named, untagged, slash, tag, front⟩
    exact ⟨image, named, untagged, slash, tag, front⟩

/-- The canonical form of what is left of a canonical form without its transport. -/
theorem canonicalize_withoutTransport (h : p.canonicalize.transport = some .stdio) :
    Package.canonicalize { p.canonicalize with transport := none } =
      p.canonicalize.canonicalize := by
  rw [canonicalize_eq_fields, canonicalize_eq_fields (p := p.canonicalize), h]
  rfl

end Package

/-! ### One element -/

/-- An element that is a package as a whole. -/
theorem canonicalizePackage_canonicalizePackage_of_ok (h : Package.ofJson v = .ok p) :
    canonicalizePackage (canonicalizePackage v) = canonicalizePackage v ↔ ¬ p.SpillsTag := by
  rw [← Package.canonicalize_canonicalize_iff, canonicalizePackage_of_ok h]
  by_cases hfixed : p.canonicalize = p
  · rw [if_pos hfixed, canonicalizePackage_of_ok h, if_pos hfixed, hfixed, hfixed]
    exact iff_of_true rfl rfl
  · have hfaithful := (Package.faithful_of_ofJson h).canonicalize
    rw [if_neg hfixed, canonicalizePackage_of_ok hfaithful.ofJson_toJson]
    split
    · next hsecond => exact iff_of_true rfl hsecond
    · rw [hfaithful.canonicalize.toJson_inj hfaithful]

namespace InPlace

/-- An object that is no package as a whole is none either when its canonical form was written
back: only members that are as they should be are changed. -/
theorem acceptsMembers_of_writeBack (h : ms.keys.Nodup)
    (hp : Package.project? (.obj ms) = some p)
    (hout : Json.Layout.AcceptsMembers Package.knownFields (writeBack ms p.canonicalize)) :
    Json.Layout.AcceptsMembers Package.knownFields ms := by
  have ht := Package.canonicalize_transport p
  rw [Json.Layout.acceptsMembers_iff (by decide) (keys_writeBack_nodup ht h)] at hout
  rw [Json.Layout.acceptsMembers_iff (by decide) h]
  -- the fields of the projection were read, so they are as they should be
  have hfield : ∀ f : LegacyField,
      (Json.Layout.Field.defaulted f.name (.optional .string)).Holds ms := by
    refine fun f => .of_accepts rfl fun v hv => Json.Layout.accepts_optional_iff.mpr ?_
    rcases Package.textMember?_eq_some_iff.mp (Package.textMember?_of_project? hp f) with
      ⟨hnone | hnull, -⟩ | ⟨s, hs, -⟩
    · cases hnone.symm.trans hv
    · exact Or.inl (Option.some.inj (hv.symm.trans hnull))
    · exact Or.inr (Json.Layout.accepts_string_iff.mpr ⟨s, Option.some.inj (hv.symm.trans hs)⟩)
  simp only [Package.knownFields, List.forall_mem_cons, List.not_mem_nil, false_imp_iff,
    implies_true, and_true] at hout ⊢
  obtain ⟨htype, -, hid, -, -, hhint, htransport⟩ := hout
  refine ⟨?_, hfield .registryBaseUrl, ?_, hfield .version, hfield .fileSha256, ?_, ?_⟩
  · have hvalue : value? (writeBack ms p.canonicalize) "registryType" = ms.value? "registryType" :=
      value?_writeBack_of_notMem ht h (by decide)
    exact ⟨fun v hv => htype.accepts v (hvalue.trans hv),
      fun hr hv => htype.present hr (hvalue.trans hv)⟩
  · -- a `null` identifier is refused, and it is never replaced
    refine .of_accepts rfl fun v hv => ?_
    have hvalue := value?_writeBack_identifier ht h
    by_cases hempty : p.canonicalize.identifier = ""
    · rw [if_pos hempty] at hvalue
      exact hid.accepts v (hvalue.trans hv)
    · obtain ⟨_, _, identifier, _, _, -, -, hstored, -, -, heq⟩ :=
        Package.project?_eq_some_iff.mp hp
      rcases Package.textMember?_eq_some_iff.mp hstored with ⟨-, hnone⟩ | ⟨s, hs, -⟩
      · have : p.identifier = "" := by rw [heq, hnone]; rfl
        exact absurd (Package.canonicalize_identifier_eq_empty_iff.mpr this) hempty
      · obtain rfl := Option.some.inj (hs.symm.trans hv)
        exact Json.Layout.accepts_string_iff.mpr ⟨s, rfl⟩
  · have hvalue : value? (writeBack ms p.canonicalize) "runtimeHint" = ms.value? "runtimeHint" :=
      value?_writeBack_of_notMem ht h (by decide)
    exact .of_accepts rfl fun v hv => hhint.accepts v (hvalue.trans hv)
  · refine .of_accepts rfl fun v hv => ?_
    have hvalue := value?_writeBack_transport ht h
    -- a missing transport may be missing, and any other one is kept
    by_cases hlacks : lacksTransport ms = true
    · rcases lacksTransport_iff.mp hlacks with hnone | hnull
      · cases hnone.symm.trans hv
      · obtain rfl := Option.some.inj (hnull.symm.trans hv)
        exact Json.Layout.accepts_optional_iff.mpr (Or.inl rfl)
    · rw [if_neg hlacks] at hvalue
      exact htransport.accepts v (hvalue.trans hv)

/-- Writing a canonical form back twice is writing it back once. -/
theorem writeBack_writeBack (h : ms.keys.Nodup) :
    writeBack (writeBack ms p.canonicalize) p.canonicalize = writeBack ms p.canonicalize := by
  have ht := Package.canonicalize_transport p
  have hname : withIdentifier (writeBack ms p.canonicalize) p.canonicalize.identifier =
      writeBack ms p.canonicalize := by
    have hvalue := value?_writeBack_identifier ht h
    rw [withIdentifier]
    split
    · rfl
    · next hid =>
      rw [if_neg (by simpa using hid)] at hvalue
      exact set_of_value?_eq_some hvalue
  -- what was to be removed is gone
  have hdrops : ∀ f ∈ LegacyField.all,
      drops (writeBack ms p.canonicalize) p.canonicalize f = false := by
    intro f _
    rw [← Bool.not_eq_true, drops_eq_true_iff, value?_writeBack_field ht h]
    rintro ⟨⟨v, hv, hnull⟩, hnone⟩
    split at hv
    · cases hv
    · next hkept => exact hkept (drops_eq_true_iff.mpr ⟨⟨v, hv, hnull⟩, hnone⟩)
  have htransport : ¬ lacksTransport (writeBack ms p.canonicalize) = true := by
    rw [lacksTransport_iff, value?_writeBack_transport ht h]
    split
    · simp [Transport.toJson]
    · next hlacks => rwa [← lacksTransport_iff]
  rw [writeBack_eq ht, if_neg htransport, hname, dropFields_eq_self hdrops]

end InPlace

/-- An element that is changed in place. -/
theorem canonicalizePackage_canonicalizePackage_of_error (hms : ms.keys.Nodup)
    (h : Package.ofJson (.obj ms) = .error d) (hp : Package.project? (.obj ms) = some p) :
    canonicalizePackage (canonicalizePackage (.obj ms)) = canonicalizePackage (.obj ms) ↔
      ¬ p.SpillsTag := by
  have ht := Package.canonicalize_transport p
  have hout := InPlace.keys_writeBack_nodup ht hms
  have hproject := InPlace.project?_writeBack hms hp
  have hstdio : p.canonicalize.transport = some .stdio := by
    obtain ⟨_, _, _, _, _, -, -, -, -, -, heq⟩ := Package.project?_eq_some_iff.mp hp
    rw [ht, heq]
    rfl
  -- the element is no package afterwards either, so it is changed in place again
  have herror : ∃ e, Package.ofJson (.obj (writeBack ms p.canonicalize)) = .error e := by
    cases hof : Package.ofJson (.obj (writeBack ms p.canonicalize)) with
    | error e => exact ⟨e, rfl⟩
    | ok q =>
      obtain ⟨ms', heq, haccepts, -⟩ := Package.ofJson_eq_ok_iff.mp hof
      obtain rfl := Json.obj.inj heq
      have := Package.ofJson_eq_ok_iff.mpr
        ⟨ms, rfl, InPlace.acceptsMembers_of_writeBack hms hp haccepts, rfl⟩
      rw [h] at this
      cases this
  obtain ⟨e, herror⟩ := herror
  rw [canonicalizePackage_of_error h, canonicalizeInPlace_of_some hp,
    canonicalizePackage_of_error herror, canonicalizeInPlace_of_some hproject,
    Package.canonicalize_withoutTransport hstdio, Json.obj.injEq]
  constructor
  · -- the identifier tells whether the second canonical form is the first one
    intro heq hspills
    have hlegacy := Package.isLegacyImage_canonicalize_iff.mpr hspills
    have hbare : ImageName.isBare p.canonicalize.identifier = true := by
      have hfirst := hlegacy
      rw [Package.isLegacyImage_canonicalize, Bool.and_eq_true] at hfirst
      rw [Package.canonicalize_identifier, if_pos hfirst.1]
      exact hfirst.2
    have hlength := Package.length_lt_fullIdentifier hbare
    have hsecond := InPlace.value?_writeBack_identifier
      (Package.canonicalize_transport p.canonicalize) hout
    have hfirst := InPlace.value?_writeBack_identifier ht hms
    have hname := (Package.isLegacyImage_eq_true_iff.mp hlegacy).2.1
    rw [heq, hfirst, if_neg hname,
      if_neg (mt Package.canonicalize_identifier_eq_empty_iff.mp hname),
      Package.canonicalize_identifier p.canonicalize, if_pos hlegacy] at hsecond
    obtain hsame := Json.str.inj (Option.some.inj hsecond)
    rw [← hsame] at hlength
    exact Nat.lt_irrefl _ hlength
  · intro hspills
    rw [Package.canonicalize_canonicalize_iff.mpr hspills, InPlace.writeBack_writeBack hms]

/-- One element of a `packages` array is canonicalized once and for all unless its tag spills. -/
theorem canonicalizePackage_canonicalizePackage_iff (h : v.WellFormed) :
    canonicalizePackage (canonicalizePackage v) = canonicalizePackage v ↔
      ∀ p, Package.project? v = some p → ¬ p.SpillsTag := by
  cases hof : Package.ofJson v with
  | ok p =>
    rw [canonicalizePackage_canonicalizePackage_of_ok hof]
    simp [Package.project?_of_ofJson hof, Package.spillsTag_projection_iff]
  | error d =>
    cases hp : Package.project? v with
    | none =>
      have hfixed : canonicalizePackage v = v := by
        rw [canonicalizePackage_of_error hof, canonicalizeInPlace_of_none hp]
      simp [hfixed]
    | some p =>
      obtain ⟨ms, rfl⟩ := Package.exists_obj_of_project? hp
      rw [canonicalizePackage_canonicalizePackage_of_error (Json.wellFormed_obj_iff.mp h).1 hof hp]
      simp

/-! ### Arrays -/

/-- **A `packages` array is canonicalized once and for all unless a tag spills.** -/
theorem canonicalizePackages_canonicalizePackages_iff (h : v.WellFormed) :
    canonicalizePackages (canonicalizePackages v) = canonicalizePackages v ↔
      ∀ x ∈ v.items, ∀ p, Package.project? x = some p → ¬ p.SpillsTag := by
  cases v with
  | arr xs =>
    rw [Json.wellFormed_arr_iff] at h
    rw [canonicalizePackages, canonicalizePackages, Json.arr.injEq, List.map_map,
      List.map_inj_left, Json.items]
    exact forall₂_congr fun x hx => canonicalizePackage_canonicalizePackage_iff (h x hx)
  | _ => simp [canonicalizePackages, Json.items]

/-- **Canonicalization is idempotent but for tags that spill**, of packages and of `packages`
arrays. -/
theorem canonicalize_idempotent_iff (p : Package) (hv : v.WellFormed) :
    (p.canonicalize.canonicalize = p.canonicalize ↔ ¬ p.SpillsTag) ∧
      (canonicalizePackages (canonicalizePackages v) = canonicalizePackages v ↔
        ∀ x ∈ v.items, ∀ q, Package.project? x = some q → ¬ q.SpillsTag) :=
  ⟨Package.canonicalize_canonicalize_iff, canonicalizePackages_canonicalizePackages_iff hv⟩

/-- An image in the older form. -/
def legacyImage (identifier version : String) : Package :=
  { Package.ofIdentifier .oci identifier with version := some version }

/-- A `packages` array with one image in the older form. -/
def legacyImages (identifier version : String) : Json :=
  .arr [.obj [("registryType", .str "oci"), ("identifier", .str identifier),
    ("version", .str version), ("transport", .obj [("type", .str "stdio")])]]

theorem wellFormed_legacyImages (identifier version : String) :
    (legacyImages identifier version).WellFormed := by
  simp [legacyImages, keys, Json.WellFormed.str]

theorem canonicalize_idempotent_of_plain_tag :
    Package.canonicalize (Package.canonicalize (legacyImage "ns/img" "1.0")) =
        Package.canonicalize (legacyImage "ns/img" "1.0") ∧
      canonicalizePackages (canonicalizePackages (legacyImages "ns/img" "1.0")) =
        canonicalizePackages (legacyImages "ns/img" "1.0") := by
  have h := canonicalize_idempotent_iff (legacyImage "ns/img" "1.0")
    (wellFormed_legacyImages "ns/img" "1.0")
  refine ⟨h.1.mpr (by decide), h.2.mpr ?_⟩
  intro x hx p hp
  obtain rfl := List.mem_singleton.mp hx
  obtain rfl := Option.some.inj hp
  decide

/-- The part of a tag before its slash goes to the name, and the rest is then no tag. -/
theorem not_canonicalize_idempotent_of_slash :
    Package.canonicalize (Package.canonicalize (legacyImage "ns/img" "v/1")) ≠
        Package.canonicalize (legacyImage "ns/img" "v/1") ∧
      canonicalizePackages (canonicalizePackages (legacyImages "ns/img" "v/1")) ≠
        canonicalizePackages (legacyImages "ns/img" "v/1") :=
  ⟨by decide, by decide⟩

end Catalog
