import Catalog.Proofs.Canonical.Decoded
import Catalog.Proofs.Canonical.Shape
import Catalog.Proofs.Canonical.Unchanged

/-!
# What canonicalization keeps of a document

Canonicalization loses nothing that was stored. Whichever way an element of a `packages` array goes,
it keeps its registry type, its hint and all members without a meaning of their own, and a transport
that is given stays the transport that it was. An element that is no package at all, or one that is
canonical already, is kept to the letter.

## Main definitions

* `IsSettled` — there is nothing to canonicalize about an element.
* `Keeps` — what is kept of an element.

## Main results

* `canonicalizePackage_of_isSettled` — a settled element is kept to the letter.
* `Package.keeps_toJson`, `keeps_writeBack` — an element that is written anew, and one that is
  changed in place.
* `canonicalizePackages_keeps` — **of a `packages` array no element is lost, and none loses
  anything.**
-/

namespace Catalog

open Json (Members)
open Json.Members

variable {v : Json} {ms : Members} {p : Package} {d : Json.Defect} {xs : List Json}

/-! ### Settled elements -/

/-- There is nothing to canonicalize about the element: it is no object with a registry type, or it
is a package that is not in the older form and has a transport. -/
def IsSettled (v : Json) : Prop :=
  v.members.string? "registryType" = none ∨
    ∃ p, Package.ofJson v = .ok p ∧ p.isLegacy = false ∧ p.transport.isSome

/-- A package that is not in the older form and has a transport leaves nothing to do. -/
theorem Package.isNormal_of_not_isLegacy (h : p.isLegacy = false) (ht : p.transport.isSome) :
    p.IsNormal := by
  have hfields : ∀ f, p.registryType.forbids f = true → p.legacyField? f = none := by
    intro f hf
    by_contra hsome
    rw [isLegacy_iff.mpr (Or.inl ⟨f, hf, hsome⟩)] at h
    cases h
  exact {
    image := by
      rw [isLegacy, Bool.or_eq_false_iff] at h
      exact h.1
    bundle := by
      intro htype
      have hforbids : ∀ f, f ≠ .fileSha256 → p.registryType.forbids f = true := fun f hf =>
        (RegistryType.forbids_iff_of_ne hf).mpr (Or.inr htype)
      exact ⟨hfields .version (hforbids .version (by decide)),
        hfields .registryBaseUrl (hforbids .registryBaseUrl (by decide))⟩
    hash := fun htype => hfields .fileSha256 (RegistryType.forbids_fileSha256_iff.mpr htype)
    transport := ht }

/-- A settled element is kept to the letter. -/
theorem canonicalizePackage_of_isSettled (h : IsSettled v) : canonicalizePackage v = v := by
  rcases h with htype | ⟨p, hof, hlegacy, ht⟩
  · -- without a registry type there is neither a package nor a projection
    have hproject : Package.project? v = none := by
      refine Option.eq_none_iff_forall_ne_some.mpr fun p hp => ?_
      obtain ⟨type, -, -, -, -, hsome, -⟩ := Package.project?_eq_some_iff.mp hp
      rw [htype] at hsome
      cases hsome
    cases hof : Package.ofJson v with
    | ok p =>
      rw [Package.project?_of_ofJson hof] at hproject
      cases hproject
    | error d => rw [canonicalizePackage_of_error hof, canonicalizeInPlace_of_none hproject]
  · rw [canonicalizePackage_of_ok hof,
      if_pos (Package.isNormal_of_not_isLegacy hlegacy ht).canonicalize_eq]

/-! ### The three ways of an element -/

/-- What is kept of an element `v` in the element `w` that it becomes. -/
structure Keeps (v w : Json) : Prop where
  registryType : w.get? "registryType" = v.get? "registryType"
  runtimeHint : w.members.given? "runtimeHint" = v.members.given? "runtimeHint"
  /-- The members without a meaning of their own, which may come in another order. -/
  others : (w.members.others (Package.knownFields.map (·.name))).Perm
    (v.members.others (Package.knownFields.map (·.name)))
  /-- A transport that is given in a package may be written anew, as the same transport. -/
  transport : ∀ p t, Package.ofJson v = .ok p → v.members.given? "transport" = some t →
    ∃ u d, w.get? "transport" = some u ∧ Transport.ofJson t = .ok d ∧ Transport.ofJson u = .ok d
  /-- In anything else it is kept to the letter. -/
  storedTransport : ∀ d t, Package.ofJson v = .error d → v.members.given? "transport" = some t →
    w.get? "transport" = some t

/-- An element that is kept to the letter. -/
theorem Keeps.refl (v : Json) : Keeps v v where
  registryType := rfl
  runtimeHint := rfl
  others := .refl _
  transport := by
    intro p t hof ht
    obtain ⟨d, hd, -⟩ := Package.ofJson_transport_of_ofJson hof ht
    exact ⟨t, d, (given?_eq_some_iff.mp ht).1, hd, hd⟩
  storedTransport := fun _ _ _ ht => (given?_eq_some_iff.mp ht).1

namespace Package

theorem Faithful.value?_registryType (h : p.Faithful) :
    value? p.toMembers "registryType" = some (.str p.registryType.name) := by
  rw [h.value?_toMembers (by decide)]
  rfl

theorem Faithful.given?_runtimeHint (h : p.Faithful) :
    given? p.toMembers "runtimeHint" = p.runtimeHint.map .str := by
  have hvalue : value? p.toMembers "runtimeHint" = p.runtimeHint.map .str := by
    rw [h.value?_toMembers (by decide)]
    simp [knownMembers, value?_append, value?_cons]
  rw [given?, hvalue]
  cases p.runtimeHint <;> rfl

/-- A package that is written anew in its canonical form. -/
theorem keeps_toJson (h : ofJson v = .ok p) : Keeps v p.canonicalize.toJson := by
  have hfaithful := (faithful_of_ofJson h).canonicalize
  exact {
    registryType := by
      have hw := hfaithful.value?_registryType
      rw [canonicalize_registryType] at hw
      exact hw.trans (string?_eq_some_iff.mp (string?_registryType_of_ofJson h)).symm
    runtimeHint := by
      have hw := hfaithful.given?_runtimeHint
      rw [canonicalize_runtimeHint] at hw
      exact hw.trans (given?_runtimeHint_of_ofJson h).symm
    others := by
      have hw := hfaithful.others_toMembers
      obtain ⟨ms, rfl, -, rfl⟩ := ofJson_eq_ok_iff.mp h
      rw [canonicalize_extra] at hw
      exact .of_eq hw
    transport := by
      intro q t hq ht
      obtain rfl := Except.ok.inj (h.symm.trans hq)
      obtain ⟨d, hd, htransport⟩ := ofJson_transport_of_ofJson h ht
      have hw := hfaithful.value?_transport
      rw [canonicalize_transport, htransport] at hw
      exact ⟨d.toJson, d, hw, hd, ((faithful_of_ofJson h).transport d htransport).ofJson_toJson⟩
    storedTransport := by
      intro d t herror
      rw [h] at herror
      cases herror }

end Package

/-- An object that is no package and whose fields are changed in place. -/
theorem keeps_writeBack (hms : ms.keys.Nodup) (h : Package.ofJson (.obj ms) = .error d) :
    Keeps (.obj ms) (.obj (writeBack ms p.canonicalize)) where
  registryType := InPlace.value?_writeBack_of_notMem p.canonicalize_transport hms (by decide)
  runtimeHint := by
    have hvalue : value? (writeBack ms p.canonicalize) "runtimeHint" = ms.value? "runtimeHint" :=
      InPlace.value?_writeBack_of_notMem p.canonicalize_transport hms (by decide)
    show given? (writeBack ms p.canonicalize) "runtimeHint" = given? ms "runtimeHint"
    rw [given?, given?, hvalue]
  others := InPlace.others_writeBack_perm p.canonicalize_transport hms
  transport := by
    intro q t hok
    rw [h] at hok
    cases hok
  storedTransport := fun _ _ _ => InPlace.value?_writeBack_of_given p.canonicalize_transport hms

theorem canonicalizePackage_keeps (hv : v.WellFormed) : Keeps v (canonicalizePackage v) := by
  cases hof : Package.ofJson v with
  | ok p =>
    rw [canonicalizePackage_of_ok hof]
    split
    · exact .refl v
    · exact Package.keeps_toJson hof
  | error d =>
    rw [canonicalizePackage_of_error hof]
    cases hproject : Package.project? v with
    | none =>
      rw [canonicalizeInPlace_of_none hproject]
      exact .refl v
    | some p =>
      obtain ⟨ms, rfl⟩ := Package.exists_obj_of_project? hproject
      rw [canonicalizeInPlace_of_some hproject]
      exact keeps_writeBack (Json.wellFormed_obj_iff.mp hv).1 hof

theorem string?_registryType_canonicalizePackage (hv : v.WellFormed) :
    (canonicalizePackage v).members.string? "registryType" =
      v.members.string? "registryType" := by
  have hvalue : value? (canonicalizePackage v).members "registryType" =
      value? v.members "registryType" := (canonicalizePackage_keeps hv).registryType
  rw [string?, string?, hvalue]

/-! ### Whole arrays -/

/-- **Of a `packages` array no element is lost, and none loses anything.** -/
theorem canonicalizePackages_keeps (h : (Json.arr xs).WellFormed) :
    ∃ ys, canonicalizePackages (.arr xs) = .arr ys ∧ ys.length = xs.length ∧
      List.Forall₂ (fun v w => (IsSettled v → w = v) ∧ Keeps v w) xs ys := by
  refine ⟨xs.map canonicalizePackage, rfl, List.length_map .., ?_⟩
  rw [List.forall₂_map_right_iff, List.forall₂_same]
  intro v hv
  exact ⟨canonicalizePackage_of_isSettled,
    canonicalizePackage_keeps (Json.wellFormed_arr_iff.mp h v hv)⟩

/-- An entry whose hint and transport have no meaning. -/
def opaqueEntry : Json :=
  .obj [("registryType", .str "npm"), ("fileSha256", .str "00"), ("license", .str "MIT"),
    ("runtimeHint", .bool true), ("transport", .obj [("type", .str "websocket")])]

/-- One element for each way: kept to the letter, written anew, and changed in place. -/
theorem canonicalizePackages_keeps_opaqueEntry :
    ∃ ys, canonicalizePackages (.arr [.null, Package.olderEntry, opaqueEntry]) = .arr ys ∧
      List.Forall₂ (fun v w => (IsSettled v → w = v) ∧ Keeps v w)
        [.null, Package.olderEntry, opaqueEntry] ys ∧
      ys = [.null,
        .obj [("registryType", .str "oci"), ("identifier", .str "docker.io/ns/img:1.0"),
          ("transport", .obj [("type", .str "stdio")]), ("license", .str "MIT"),
          ("homepage", .null)],
        .obj [("registryType", .str "npm"), ("transport", .obj [("type", .str "websocket")]),
          ("license", .str "MIT"), ("runtimeHint", .bool true)]] := by
  have hwell : (Json.arr [.null, Package.olderEntry, opaqueEntry]).WellFormed := by
    simp [Package.olderEntry, opaqueEntry, keys, Json.WellFormed.str, Json.WellFormed.null,
      Json.WellFormed.bool]
  obtain ⟨ys, hys, -, hkeeps⟩ := canonicalizePackages_keeps hwell
  refine ⟨ys, hys, hkeeps, ?_⟩
  exact (Json.arr.inj hys).symm

end Catalog
