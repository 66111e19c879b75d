import Catalog.Proofs.Canonical.InPlace
import Catalog.Proofs.Json.Bounded
import Catalog.Proofs.Record.Canonical

/-!
# Canonical forms are bounded

Canonicalization of a document repeats no key, adds no number and nests no deeper than the document,
unless a package gets the standard transport, which nests one container in it. So what it makes of a
stored document can be stored in its place.

## Main results

* `Transport.bounded_toJson`, `Package.bounded_toJson` — documents of what was read.
* `bounded_canonicalizePackage` — one element of a `packages` array.
* `bounded_canonicalizeDocument` — **the canonical form of a bounded document is bounded.**
* `Record.bounded_replacement` — the packages that a migration writes.
-/

namespace Catalog

open Json (Bounded Layout Members Number)
open Json.Members

variable {p : Number → Prop} {depth : Nat} {v c : Json} {ms known extra : Members}

/-! ### Members -/

/-- Known members that are followed by others. -/
theorem Json.bounded_append (names : List String) (hnames : names.Nodup)
    (hkeys : known.keys.Sublist names) (hextra : ∀ m ∈ extra, m.1 ∉ names)
    (hdistinct : extra.keys.Nodup) (hknown : ∀ m ∈ known, Bounded p depth m.2)
    (hvalues : ∀ m ∈ extra, Bounded p depth m.2) :
    Bounded p (depth + 1) (.obj (known ++ extra)) :=
  .obj (keys_append_nodup hnames hkeys hextra hdistinct) fun m hm =>
    (List.mem_append.mp hm).elim (hknown m) (hvalues m)

theorem bounded_of_value? {key : String} (h : Bounded p (depth + 1) (.obj ms))
    (hv : ms.value? key = some v) : Bounded p depth v :=
  (Json.bounded_obj_iff.mp h).2 _ (mem_of_value?_eq_some hv)

/-! ### Inputs and transports -/

/-- Texts in the place of an array. -/
theorem bounded_ofStrings {xs : List Json} (h : Bounded p depth (.arr xs)) (texts : List String) :
    Bounded p depth (Json.ofStrings texts) := by
  cases h with
  | arr items =>
    refine .arr fun x hx => ?_
    obtain ⟨s, -, rfl⟩ := List.mem_map.mp hx
    exact .str s

/-- The document of an input that was read. -/
theorem Input.bounded_toJson (h : Bounded p (depth + 1) (.obj ms)) :
    Bounded p (depth + 1) (ofMembers ms).toJson := by
  obtain ⟨hkeys, hvalues⟩ := Json.bounded_obj_iff.mp h
  have hextra := faithful_ofMembers ms
  rw [toJson, toMembers_eq]
  refine Json.bounded_append (knownFields.map Layout.Field.name) (by decide)
    keys_knownMembers_sublist hextra (keys_others_nodup hkeys _) (fun m hm => ?_)
    fun m hm => hvalues m (mem_others_iff.mp hm).1
  simp only [knownMembers, List.mem_append, mem_given_iff] at hm
  rcases hm with ((((⟨s, -, rfl⟩ | ⟨b, -, rfl⟩) | ⟨b, -, rfl⟩) | ⟨s, -, rfl⟩) | ⟨s, -, rfl⟩) |
    ⟨texts, htexts, rfl⟩
  · exact .str s
  · exact .bool b
  · exact .bool b
  · exact .str s
  · exact .str s
  · obtain ⟨xs, hxs, rfl⟩ := Option.map_eq_some_iff.mp htexts
    exact bounded_ofStrings (bounded_of_value? h (array?_eq_some_iff.mp hxs)) _

/-- The documents of variables that were read. -/
theorem Transport.bounded_variables {vs : Members} (h : Bounded p depth (.obj vs))
    (hinputs : ∀ m ∈ vs, Input.layout.Accepts m.2) :
    Bounded p depth
      (variablesJson (Table.ofList (vs.map fun (k, v) => (k, Input.ofMembers v.members)))) := by
  cases h with
  | obj hkeys hvalues =>
    refine .obj ?_ fun m hm => ?_
    · exact nodup_keys_variablesJson (Table.sorted_ofList _)
    · obtain ⟨e, he, rfl⟩ := List.mem_map.mp hm
      obtain ⟨w, hw, rfl⟩ := List.mem_map.mp (Table.mem_of_mem_ofList he)
      obtain ⟨inner, hinner, -⟩ := Layout.accepts_openRecord_iff.mp (hinputs w hw)
      have hbounded := hvalues w hw
      rw [hinner] at hbounded
      show Bounded p _ (Input.ofMembers w.2.members).toJson
      rw [hinner]
      cases hbounded with
      | obj keys values => exact Input.bounded_toJson (.obj keys values)

/-- The document of a transport that was read. -/
theorem Transport.bounded_toJson (h : Bounded p (depth + 1) (.obj ms))
    (haccepts : Layout.AcceptsMembers knownFields ms) :
    Bounded p (depth + 1) (ofMembers ms).toJson := by
  obtain ⟨hkeys, hvalues⟩ := Json.bounded_obj_iff.mp h
  have hextra := (faithful_ofMembers ms).extra
  rw [toJson, toMembers_eq]
  refine Json.bounded_append (knownFields.map Layout.Field.name) (by decide)
    keys_knownMembers_sublist hextra (keys_others_nodup hkeys _) (fun m hm => ?_)
    fun m hm => hvalues m (mem_others_iff.mp hm).1
  simp only [knownMembers, List.mem_append, mem_given_iff, List.mem_singleton] at hm
  rcases hm with ((rfl | ⟨s, -, rfl⟩) | ⟨xs, hxs, rfl⟩) | ⟨inputs, hinputs, rfl⟩
  · exact .str _
  · exact .str s
  · exact bounded_of_value? h (array?_eq_some_iff.mp hxs)
  · obtain ⟨vs, hvs, rfl⟩ := Option.map_eq_some_iff.mp hinputs
    have hvalue := object?_eq_some_iff.mp hvs
    refine bounded_variables (bounded_of_value? h hvalue) ?_
    -- each of the variables has the layout of an input
    have hfield :
        (Layout.Field.defaulted "variables" (.optional (.table Input.layout))).Holds ms :=
      haccepts.holds (by decide) (by simp [knownFields])
    rcases Layout.accepts_optional_iff.mp (hfield.accepts _ hvalue) with hnull | htable
    · cases hnull
    · obtain ⟨ws, hws, hall⟩ := Layout.accepts_table_iff.mp htable
      rw [Json.obj.inj hws]
      exact hall

/-- The document of the standard transport. -/
theorem Transport.bounded_stdio : Bounded p (depth + 1) stdio.toJson := by
  refine .obj (by decide) fun m hm => ?_
  rw [List.mem_singleton.mp hm]
  exact .str _

/-! ### Packages -/

/-- The document of a package whose transport and other members are bounded. -/
theorem Package.bounded_toJson {q : Package}
    (hextra : ∀ m ∈ q.extra, m.1 ∉ knownFields.map (·.name)) (hdistinct : q.extra.keys.Nodup)
    (hvalues : ∀ m ∈ q.extra, Bounded p depth m.2)
    (htransport : ∀ t, q.transport = some t → Bounded p depth t.toJson) :
    Bounded p (depth + 1) q.toJson := by
  rw [toJson, toMembers_eq]
  refine Json.bounded_append (knownFields.map Layout.Field.name) (by decide)
    keys_knownMembers_sublist hextra hdistinct (fun m hm => ?_) hvalues
  simp only [knownMembers, List.mem_append, mem_given_iff, List.mem_singleton] at hm
  rcases hm with (((((rfl | ⟨s, -, rfl⟩) | ⟨s, -, rfl⟩) | ⟨s, -, rfl⟩) | ⟨s, -, rfl⟩) |
    ⟨s, -, rfl⟩) | ⟨t, ht, rfl⟩
  · exact .str _
  · exact .str s
  · exact .str s
  · exact .str s
  · exact .str s
  · exact .str s
  · exact htransport t ht

/-- The canonical form of a package that was read. -/
theorem Package.bounded_canonicalize (h : Bounded p (depth + 2) (.obj ms))
    (haccepts : Layout.AcceptsMembers knownFields ms) :
    Bounded p (depth + 2) (ofMembers ms).canonicalize.toJson := by
  obtain ⟨hkeys, hvalues⟩ := Json.bounded_obj_iff.mp h
  have hsame : (ofMembers ms).canonicalize.extra = (ofMembers ms).extra := by
    rw [canonicalize_eq_fields]
  refine bounded_toJson ?_ ?_ ?_ fun t ht => ?_
  · rw [hsame]
    exact (faithful_ofMembers ms).extra
  · rw [hsame]
    exact keys_others_nodup hkeys _
  · rw [hsame]
    exact fun m hm => hvalues m (mem_others_iff.mp hm).1
  · rw [canonicalize_transport] at ht
    obtain rfl := Option.some.inj ht
    cases hobject : ms.object? "transport" with
    | none =>
      have hnone : (ofMembers ms).transport = none := by rw [ofMembers, hobject]; rfl
      rw [hnone]
      exact Transport.bounded_stdio
    | some inner =>
      have hsome : (ofMembers ms).transport = some (Transport.ofMembers inner) := by
        rw [ofMembers, hobject]
        rfl
      rw [hsome]
      -- the transport that was read has the layout of one
      have hvalue := object?_eq_some_iff.mp hobject
      refine Transport.bounded_toJson (bounded_of_value? h hvalue) ?_
      have hfield : (Layout.Field.defaulted "transport" (.optional Transport.layout)).Holds ms :=
        haccepts.holds (by decide) (by simp [knownFields])
      rcases Layout.accepts_optional_iff.mp (hfield.accepts _ hvalue) with hnull | hlayout
      · cases hnull
      · obtain ⟨inner', hinner', hmembers⟩ := Layout.accepts_openRecord_iff.mp hlayout
        rwa [Json.obj.inj hinner']

/-! ### Documents -/

theorem Json.Bounded.remove {key : String} (h : Bounded p (depth + 1) (.obj ms)) :
    Bounded p (depth + 1) (.obj (ms.remove key)) := by
  obtain ⟨hkeys, hvalues⟩ := bounded_obj_iff.mp h
  exact .obj (keys_remove_nodup hkeys) fun m hm => hvalues m (mem_of_mem_remove hkeys hm)

theorem InPlace.bounded_dropFields {drop : LegacyField → Bool} (fs : List LegacyField)
    (h : Bounded p (depth + 1) (.obj ms)) :
    Bounded p (depth + 1) (.obj (dropFields drop fs ms)) := by
  induction fs generalizing ms with
  | nil => exact h
  | cons f fs ih =>
    rw [dropFields_cons]
    split
    · exact ih h.remove
    · exact ih h

/-- An object into which a canonical form with a bounded transport was written back. -/
theorem InPlace.bounded_writeBack {q : Package} {t : Transport} (ht : q.transport = some t)
    (hbounded : Bounded p depth t.toJson) (h : Bounded p (depth + 1) (.obj ms)) :
    Bounded p (depth + 1) (.obj (writeBack ms q)) := by
  have hnamed : Bounded p (depth + 1) (.obj (withIdentifier ms q.identifier)) := by
    rw [withIdentifier]
    split
    · exact h
    · exact h.set (.str _)
  rw [writeBack_eq ht]
  split
  · exact (bounded_dropFields _ hnamed).set hbounded
  · exact bounded_dropFields _ hnamed

/-- One element of a `packages` array. -/
theorem bounded_canonicalizePackage (h : Bounded p (depth + 2) v) :
    Bounded p (depth + 2) (canonicalizePackage v) := by
  cases hread : Package.ofJson v with
  | ok q =>
    rw [canonicalizePackage_of_ok hread]
    split
    · exact h
    · obtain ⟨ms, rfl, haccepts, rfl⟩ := Package.ofJson_eq_ok_iff.mp hread
      exact Package.bounded_canonicalize h haccepts
  | error d =>
    rw [canonicalizePackage_of_error hread]
    cases hproject : Package.project? v with
    | none =>
      rw [canonicalizeInPlace_of_none hproject]
      exact h
    | some q =>
      obtain ⟨ms, rfl⟩ := Package.exists_obj_of_project? hproject
      rw [canonicalizeInPlace_of_some hproject]
      have htransport : q.transport = none := by
        obtain ⟨_, _, _, _, _, -, -, -, -, -, rfl⟩ := Package.project?_eq_some_iff.mp hproject
        rfl
      refine InPlace.bounded_writeBack (Package.canonicalize_transport q) ?_ h
      rw [htransport]
      exact Transport.bounded_stdio

theorem bounded_canonicalizePackages (h : Bounded p (depth + 3) v) :
    Bounded p (depth + 3) (canonicalizePackages v) := by
  cases v with
  | arr xs =>
    refine .arr fun y hy => ?_
    obtain ⟨x, hx, rfl⟩ := List.mem_map.mp hy
    exact bounded_canonicalizePackage (Json.bounded_arr_iff.mp h x hx)
  | _ => exact h

/-- **The canonical form of a bounded document is bounded.** -/
theorem bounded_canonicalizeDocument (h : Bounded p (depth + 4) v) :
    Bounded p (depth + 4) (canonicalizeDocument v) := by
  rw [canonicalizeDocument]
  split
  · next packages hget =>
    cases v with
    | obj ms => exact h.set (bounded_canonicalizePackages (bounded_of_value? h hget))
    | _ => simp [Json.get?, Json.members] at hget
  · exact h

/-- The canonical form of a well-formed document is well-formed. -/
theorem wellFormed_canonicalizeDocument (h : v.WellFormed) :
    (canonicalizeDocument v).WellFormed :=
  (bounded_canonicalizeDocument (h.bounded (Nat.le_add_right _ 4))).wellFormed

/-- The packages that a migration writes. -/
theorem Record.bounded_replacement {r : Record} (h : Bounded p (depth + 4) r.document)
    (hc : r.replacement? = some c) : Bounded p (depth + 3) c := by
  rw [replacement?] at hc
  split at hc
  · next xs hxs =>
    split at hc
    · cases hc
    · obtain rfl := Option.some.inj hc
      obtain ⟨ms, hdoc, hvalue⟩ := exists_obj_of_packages? hxs
      rw [hdoc] at h
      exact bounded_canonicalizePackages (bounded_of_value? h hvalue)
  · cases hc

end Catalog
