import Catalog.Proofs.Canonical.InPlace
import Catalog.Proofs.Json.WellFormed
import Catalog.Proofs.Package.Server

/-!
# Canonical documents decoded

Canonicalization of documents goes together with decoding. The canonical form of a document that is
a package decodes to the canonical form of that package, whether the package was written anew or its
fields were changed in place; in the latter case only the extra members may come in another order.
The same holds for whole server documents.

## Main definitions

* `Package.SameUpToOrder` — two packages are the same but for the order of their extra members.

## Main results

* `Package.ofJson_canonicalizePackage` — an element of a `packages` array, written anew.
* `Package.sameUpToOrder_writeBack` — an element that is changed in place.
* `Package.ofJson_both_ways` — **both ways to canonicalize a package agree.**
* `Server.ofJson_canonicalizeDocument` — **canonicalization commutes with decoding.**
-/

namespace Catalog

open Json (Layout Members)
open Json.Members

/-! ### Changes in place -/

namespace InPlace

variable {ms : Members} {c : Package} {t : Transport}

/-- Removing fields changes at most the order of the other members. -/
theorem others_dropFields_perm (drop : LegacyField → Bool) (fs : List LegacyField)
    (h : ms.keys.Nodup) :
    ((dropFields drop fs ms).others (Package.knownFields.map (·.name))).Perm
      (ms.others (Package.knownFields.map (·.name))) := by
  induction fs generalizing ms with
  | nil => rfl
  | cons f fs ih =>
    rw [dropFields_cons]
    split
    · have hknown : f.name ∈ Package.knownFields.map (·.name) := by cases f <;> decide
      exact (ih (keys_remove_nodup h)).trans (others_remove_perm h hknown)
    · exact ih h

/-- Writing a canonical form back changes at most the order of the other members. -/
theorem others_writeBack_perm (ht : c.transport = some t) (h : ms.keys.Nodup) :
    ((writeBack ms c).others (Package.knownFields.map (·.name))).Perm
      (ms.others (Package.knownFields.map (·.name))) := by
  have hnamed : (withIdentifier ms c.identifier).others (Package.knownFields.map (·.name)) =
      ms.others (Package.knownFields.map (·.name)) := by
    rw [withIdentifier]
    split
    · rfl
    · exact others_set (by decide)
  have hdropped := others_dropFields_perm (drops ms c) LegacyField.all
    (keys_withIdentifier_nodup h : (withIdentifier ms c.identifier).keys.Nodup)
  rw [hnamed] at hdropped
  rw [writeBack_eq ht]
  split
  · rwa [others_set (by decide)]
  · exact hdropped

/-- Removing older fields, none of which must be there, from a package leaves a package. -/
theorem acceptsMembers_dropFields (drop : LegacyField → Bool) (fs : List LegacyField)
    (hms : ms.keys.Nodup) (h : Layout.AcceptsMembers Package.knownFields ms) :
    Layout.AcceptsMembers Package.knownFields (dropFields drop fs ms) := by
  induction fs generalizing ms with
  | nil => exact h
  | cons f fs ih =>
    rw [dropFields_cons]
    split
    · have hoptional : ∀ g ∈ Package.knownFields, g.isRequired = true → g.name ≠ f.name := by
        cases f <;> simp [Package.knownFields, Layout.Field.required, Layout.Field.defaulted,
          LegacyField.name]
      exact ih (keys_remove_nodup hms) (h.remove hms hoptional)
    · exact ih hms h

/-- Writing a canonical form back to a package leaves a package. -/
theorem acceptsMembers_writeBack (ht : c.transport = some t) (hfaithful : t.Faithful)
    (hms : ms.keys.Nodup) (h : Layout.AcceptsMembers Package.knownFields ms) :
    Layout.AcceptsMembers Package.knownFields (writeBack ms c) := by
  have hnamed : Layout.AcceptsMembers Package.knownFields (withIdentifier ms c.identifier) := by
    rw [withIdentifier]
    split
    · exact h
    · refine h.set fun f hf => ?_
      obtain rfl : .defaulted "identifier" .string = f := Option.some.inj hf
      exact Layout.accepts_string_iff.mpr ⟨_, rfl⟩
  have hdropped := acceptsMembers_dropFields (drops ms c) LegacyField.all
    (keys_withIdentifier_nodup hms) hnamed
  rw [writeBack_eq ht]
  split
  · refine hdropped.set fun f hf => ?_
    obtain rfl : .defaulted "transport" (.optional Transport.layout) = f := Option.some.inj hf
    exact Layout.accepts_optional_iff.mpr (Or.inr hfaithful.accepts_toJson)
  · exact hdropped

end InPlace

/-! ### Packages that are changed in place -/

namespace Package

variable {p q : Package} {v : Json} {ms : Members}

/-- The packages are the same but for the order of their extra members. -/
structure SameUpToOrder (p q : Package) : Prop where
  fields : { p with extra := q.extra } = q
  extra : p.extra.Perm q.extra

/-- Packages with the same projection differ at most in what the projection leaves out. -/
theorem eq_of_projection_eq (hprojection : p.projection = q.projection)
    (hhint : p.runtimeHint = q.runtimeHint) (htransport : p.transport = q.transport) :
    { p with extra := q.extra } = q := by
  cases p
  cases q
  simp_all [projection]

/-- What canonicalization makes of the projection of a package is the projection of what it makes
of the package, with the standard transport. -/
theorem canonicalize_projection :
    p.projection.canonicalize = { p.canonicalize.projection with transport := some .stdio } := by
  simp only [canonicalize_eq_fields, projection]
  rfl

/-- A transport that is there stays, and a missing one becomes the standard one. -/
theorem transport_writeBack {c : Package} (ht : c.transport = some .stdio) (hms : ms.keys.Nodup)
    (h : Layout.AcceptsMembers knownFields ms) :
    (ofMembers (writeBack ms c)).transport = some ((ofMembers ms).transport.getD .stdio) := by
  have hvalue := InPlace.value?_writeBack_transport ht hms
  have hholds : (Layout.Field.defaulted "transport" (.optional Transport.layout)).Holds ms :=
    h.holds (by decide) (by simp [knownFields])
  rw [ofMembers, ofMembers, object?, hvalue, object?]
  cases hstored : ms.value? "transport" with
  | none =>
    rw [if_pos (InPlace.lacksTransport_iff.mpr (Or.inl hstored))]
    rfl
  | some w =>
    rcases Layout.accepts_optional_iff.mp (hholds.accepts w hstored) with rfl | hlayout
    · rw [if_pos (InPlace.lacksTransport_iff.mpr (Or.inr hstored))]
      rfl
    · obtain ⟨inner, rfl, -⟩ := Layout.accepts_openRecord_iff.mp hlayout
      rw [if_neg (by simp [InPlace.lacksTransport_iff, hstored])]
      rfl

/-- A document of a package stays one when the canonical form of a projection is written back. -/
theorem acceptsMembers_writeBack (hms : ms.keys.Nodup) (h : Layout.AcceptsMembers knownFields ms) :
    Layout.AcceptsMembers knownFields (writeBack ms p.projection.canonicalize) := by
  refine InPlace.acceptsMembers_writeBack ?_ Transport.faithful_stdio hms h
  rw [canonicalize_projection]

/-- A package that was changed in place decodes to its canonical form, but for the order of its
extra members. -/
theorem sameUpToOrder_writeBack (hms : ms.keys.Nodup) (h : Layout.AcceptsMembers knownFields ms) :
    (ofMembers (writeBack ms (ofMembers ms).projection.canonicalize)).SameUpToOrder
      (ofMembers ms).canonicalize := by
  have hstdio : (ofMembers ms).projection.canonicalize.transport = some .stdio := by
    rw [canonicalize_projection]
  -- canonicalization sees the same before and after decoding
  have hprojection :
      (ofMembers (writeBack ms (ofMembers ms).projection.canonicalize)).projection =
        (ofMembers ms).canonicalize.projection := by
    have hbefore := project?_of_ofJson (ofJson_eq_ok_iff.mpr ⟨ms, rfl, h, rfl⟩)
    have hafter := project?_of_ofJson
      (ofJson_eq_ok_iff.mpr ⟨_, rfl, acceptsMembers_writeBack (p := ofMembers ms) hms h, rfl⟩)
    rw [InPlace.project?_writeBack hms hbefore] at hafter
    rw [← Option.some.inj hafter, canonicalize_projection]
    rfl
  have hhint : string? (writeBack ms (ofMembers ms).projection.canonicalize) "runtimeHint" =
      ms.string? "runtimeHint" := by
    rw [string?, string?, InPlace.value?_writeBack_of_notMem hstdio hms (by decide)]
  have htransport := transport_writeBack hstdio hms h
  rw [← canonicalize_transport] at htransport
  refine ⟨eq_of_projection_eq hprojection ?_ htransport, ?_⟩
  · rw [canonicalize_runtimeHint]
    exact hhint
  · rw [canonicalize_extra]
    exact InPlace.others_writeBack_perm hstdio hms

/-- The canonical form of a document that is a package decodes to the canonical form of the
package. -/
theorem ofJson_canonicalizePackage (h : ofJson v = .ok p) :
    ofJson (canonicalizePackage v) = .ok p.canonicalize := by
  rw [canonicalizePackage_of_ok h]
  split
  · next hfixed => rw [h, hfixed]
  · exact (faithful_of_ofJson h).canonicalize.ofJson_toJson

/-- The element of a `packages` array. -/
theorem ofMembers_canonicalizePackage (h : layout.Accepts v) :
    layout.Accepts (canonicalizePackage v) ∧
      ofMembers (canonicalizePackage v).members = (ofMembers v.members).canonicalize := by
  obtain ⟨ms, rfl, hms⟩ := Layout.accepts_openRecord_iff.mp h
  have hout := ofJson_canonicalizePackage (ofJson_eq_ok_iff.mpr ⟨ms, rfl, hms, rfl⟩)
  obtain ⟨ms', heq, hms', hcanonical⟩ := ofJson_eq_ok_iff.mp hout
  rw [heq]
  exact ⟨Layout.accepts_openRecord_iff.mpr ⟨ms', rfl, hms'⟩, hcanonical.symm⟩

/-- **Both ways to canonicalize a package agree.** Written anew or changed in place, its document
decodes to its canonical form; a change in place may give the extra members another order. -/
theorem ofJson_both_ways (hv : v.WellFormed) (h : ofJson v = .ok p) :
    ofJson (canonicalizePackage v) = .ok p.canonicalize ∧
      ∃ q, ofJson (canonicalizeInPlace v) = .ok q ∧ q.SameUpToOrder p.canonicalize := by
  refine ⟨ofJson_canonicalizePackage h, ?_⟩
  have hproject := project?_of_ofJson h
  obtain ⟨ms, rfl, haccepts, rfl⟩ := ofJson_eq_ok_iff.mp h
  have hms := (Json.wellFormed_obj_iff.mp hv).1
  rw [canonicalizeInPlace_of_some hproject]
  exact ⟨_, ofJson_eq_ok_iff.mpr ⟨_, rfl, acceptsMembers_writeBack hms haccepts, rfl⟩,
    sameUpToOrder_writeBack hms haccepts⟩

/-- A document in the older form. Where its version is removed, its last member moves forward. -/
def olderEntry : Json :=
  .obj [("registryType", .str "oci"), ("version", .str "1.0"), ("identifier", .str "ns/img"),
    ("license", .str "MIT"), ("homepage", .null)]

theorem ofJson_both_ways_olderEntry : ∃ p q,
    ofJson olderEntry = .ok p ∧ ofJson (canonicalizePackage olderEntry) = .ok p.canonicalize ∧
      ofJson (canonicalizeInPlace olderEntry) = .ok q ∧ q.SameUpToOrder p.canonicalize ∧
        q ≠ p.canonicalize := by
  have hwell : olderEntry.WellFormed := by
    simp [olderEntry, keys, Json.WellFormed.str, Json.WellFormed.null]
  have hof : ofJson olderEntry = .ok (ofMembers olderEntry.members) := rfl
  obtain ⟨hanew, q, hq, hsame⟩ := ofJson_both_ways hwell hof
  refine ⟨_, q, hof, hanew, hq, hsame, ?_⟩
  have hmoved : q.extra = [("homepage", .null), ("license", .str "MIT")] := by
    rw [← Except.ok.inj hq]
    rfl
  rintro rfl
  exact absurd hmoved (by decide)

end Package

/-! ### Servers -/

namespace Server

variable {s : Server} {v d : Json} {ms : Members}

/-- The `packages` member of a server document. -/
theorem packages_of_acceptsMembers (h : Layout.AcceptsMembers knownFields ms)
    (hv : ms.value? "packages" = some v) :
    v = .null ∨ ∃ xs, v = .arr xs ∧ ∀ x ∈ xs, Package.layout.Accepts x := by
  have hholds : (Layout.Field.defaulted "packages" (.optional (.list Package.layout))).Holds ms :=
    h.holds (by decide) (by simp [knownFields])
  exact (Layout.accepts_optional_iff.mp (hholds.accepts v hv)).imp_right Layout.accepts_list_iff.mp

/-- A server document with canonical packages is a server document. -/
theorem acceptsMembers_set_packages {xs : List Json} (h : Layout.AcceptsMembers knownFields ms)
    (hxs : ∀ x ∈ xs, Package.layout.Accepts x) :
    Layout.AcceptsMembers knownFields
      (ms.set "packages" (.arr (xs.map canonicalizePackage))) := by
  refine h.set fun f hf => ?_
  obtain rfl : .defaulted "packages" (.optional (.list Package.layout)) = f := Option.some.inj hf
  refine Layout.accepts_optional_iff.mpr (Or.inr (Layout.accepts_list_iff.mpr ⟨_, rfl, ?_⟩))
  intro y hy
  obtain ⟨x, hx, rfl⟩ := List.mem_map.mp hy
  exact (Package.ofMembers_canonicalizePackage (hxs x hx)).1

/-- The server with canonical packages is what is read from canonical `packages`. -/
theorem ofMembers_set_packages {xs : List Json} (hv : ms.value? "packages" = some (.arr xs))
    (hxs : ∀ x ∈ xs, Package.layout.Accepts x) :
    ofMembers (ms.set "packages" (.arr (xs.map canonicalizePackage))) =
      (ofMembers ms).canonicalize := by
  have hstring : ∀ key : String, "packages" ≠ key →
      string? (ms.set "packages" (.arr (xs.map canonicalizePackage))) key = ms.string? key :=
    fun key hne => by rw [string?, value?_set, if_neg hne, string?]
  have hremotes : array? (ms.set "packages" (.arr (xs.map canonicalizePackage))) "remotes" =
      ms.array? "remotes" := by
    rw [array?, value?_set, if_neg (by decide), array?]
  have hstored : ms.array? "packages" = some xs := array?_eq_some_iff.mpr hv
  have hwritten : array? (ms.set "packages" (.arr (xs.map canonicalizePackage))) "packages" =
      some (xs.map canonicalizePackage) :=
    array?_eq_some_iff.mpr (by rw [value?_set, if_pos rfl])
  have hpackages : (xs.map canonicalizePackage).map (fun v => Package.ofMembers v.members) =
      (xs.map fun v => Package.ofMembers v.members).map Package.canonicalize := by
    rw [List.map_map, List.map_map]
    exact List.map_congr_left fun x hx => (Package.ofMembers_canonicalizePackage (hxs x hx)).2
  rw [ofMembers, hstring "name" (by decide), hstring "description" (by decide),
    hstring "version" (by decide), hwritten, hremotes, others_set (by decide), canonicalize,
    ofMembers, hstored, Option.map_some, Option.map_some, Option.map_some, hpackages]

/-- A server without packages is canonical. -/
theorem canonicalize_of_array?_eq_none (h : ms.array? "packages" = none) :
    (ofMembers ms).canonicalize = ofMembers ms := by
  rw [canonicalize, ofMembers, h]
  rfl

/-- **Canonicalization commutes with decoding.** The canonical form of a document that is a server
decodes to the canonical form of the server. -/
theorem ofJson_canonicalizeDocument (h : ofJson d = .ok s) :
    ofJson (canonicalizeDocument d) = .ok s.canonicalize := by
  obtain ⟨ms, rfl, haccepts, rfl⟩ := ofJson_eq_ok_iff.mp h
  rw [canonicalizeDocument, Json.get?, Json.members]
  cases hv : Members.value? ms "packages" with
  | none =>
    rw [canonicalize_of_array?_eq_none (by rw [array?, hv])]
    exact h
  | some v =>
    rcases packages_of_acceptsMembers haccepts hv with rfl | ⟨xs, rfl, hxs⟩
    · -- `null` is kept
      rw [canonicalize_of_array?_eq_none (by rw [array?, hv])]
      change ofJson (.obj (Members.set ms "packages" .null)) = _
      rw [set_of_value?_eq_some hv]
      exact h
    · exact ofJson_eq_ok_iff.mpr ⟨_, rfl, acceptsMembers_set_packages haccepts hxs,
        (ofMembers_set_packages hv hxs).symm⟩

theorem ofJson_canonicalizeDocument_olderServer :
    ofJson (.obj [("name", .str "a/b"), ("packages", .arr [Package.olderEntry])]) =
        .ok ⟨"a/b", none, none, some [.ofMembers Package.olderEntry.members], none, []⟩ ∧
      ofJson (canonicalizeDocument
          (.obj [("name", .str "a/b"), ("packages", .arr [Package.olderEntry])])) =
        .ok ⟨"a/b", none, none, some [(Package.ofMembers Package.olderEntry.members).canonicalize],
          none, []⟩ := by
  have hof : ofJson (.obj [("name", .str "a/b"), ("packages", .arr [Package.olderEntry])]) =
      .ok ⟨"a/b", none, none, some [.ofMembers Package.olderEntry.members], none, []⟩ := rfl
  exact ⟨hof, ofJson_canonicalizeDocument hof⟩

end Server

end Catalog
