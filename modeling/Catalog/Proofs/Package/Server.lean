import Catalog.Package.Server
import Catalog.Proofs.Package.Document

/-!
# Documents of servers

Writing a server and reading it back gives the same server, for every server that was read from a
document: its packages and its endpoints read back one by one.

## Main definitions

* `Server.Faithful` — the server is told apart from its extra members.

## Main results

* `Server.ofJson_eq_ok_iff` — which documents are servers.
* `Server.Faithful.ofJson_toJson` — **a faithful server reads back from its document.**
-/

namespace Catalog

open Json (Layout Members)
open Json.Members

namespace Server

variable {s : Server} {v : Json} {ms : Members} {key : String}

/-- No extra member has a known name, and the packages and endpoints are faithful. -/
structure Faithful (s : Server) : Prop where
  extra : ∀ m ∈ s.extra, m.1 ∉ knownFields.map (·.name)
  packages : ∀ ps, s.packages = some ps → ∀ p ∈ ps, p.Faithful
  remotes : ∀ ts, s.remotes = some ts → ∀ t ∈ ts, t.Faithful

/-- Every server that was read is faithful. -/
theorem faithful_ofMembers (ms : Members) : (ofMembers ms).Faithful where
  extra := fun _ hm => (mem_others_iff.mp hm).2
  packages := by
    intro ps hps p hp
    obtain ⟨xs, -, rfl⟩ := Option.map_eq_some_iff.mp hps
    obtain ⟨x, -, rfl⟩ := List.mem_map.mp hp
    exact Package.faithful_ofMembers _
  remotes := by
    intro ts hts t ht
    obtain ⟨xs, -, rfl⟩ := Option.map_eq_some_iff.mp hts
    obtain ⟨x, -, rfl⟩ := List.mem_map.mp ht
    exact Transport.faithful_ofMembers _

/-- The documents that are servers, and the server that each of them is. -/
theorem ofJson_eq_ok_iff :
    ofJson v = .ok s ↔
      ∃ ms, v = .obj ms ∧ Layout.AcceptsMembers knownFields ms ∧ s = ofMembers ms :=
  Layout.map_decode_openRecord_eq_ok_iff

theorem faithful_of_ofJson (h : ofJson v = .ok s) : s.Faithful := by
  obtain ⟨ms, -, -, rfl⟩ := ofJson_eq_ok_iff.mp h
  exact faithful_ofMembers ms

/-! ### The members that are written -/

/-- The known members of the document of a server. -/
def knownMembers (s : Server) : Members :=
  [("name", .str s.name)]
    ++ given "description" .str s.description
    ++ given "version" .str s.version
    ++ given "packages" (fun ps => .arr (ps.map Package.toJson)) s.packages
    ++ given "remotes" (fun ts => .arr (ts.map Transport.toJson)) s.remotes

theorem toMembers_eq (s : Server) : s.toMembers = s.knownMembers ++ s.extra := rfl

theorem fits_of_mem_knownMembers (h : s.Faithful) {m : String × Json}
    (hm : m ∈ s.knownMembers) : Layout.Fits knownFields m := by
  simp only [knownMembers, List.mem_append, mem_given_iff, List.mem_singleton] at hm
  rcases hm with (((rfl | ⟨x, -, rfl⟩) | ⟨x, -, rfl⟩) | ⟨ps, hps, rfl⟩) | ⟨ts, hts, rfl⟩
  · simp [Layout.Fits, knownFields, Layout.Field.required]
  · simp [Layout.Fits, knownFields, Layout.Field.defaulted]
  · simp [Layout.Fits, knownFields, Layout.Field.defaulted]
  · refine ⟨.defaulted "packages" (.optional (.list Package.layout)), by simp [knownFields], rfl,
      ?_⟩
    refine Layout.accepts_optional_iff.mpr (Or.inr (Layout.accepts_list_iff.mpr ⟨_, rfl, ?_⟩))
    intro x hx
    obtain ⟨p, hp, rfl⟩ := List.mem_map.mp hx
    exact (h.packages ps hps p hp).accepts_toJson
  · refine ⟨.defaulted "remotes" (.optional (.list Transport.layout)), by simp [knownFields], rfl,
      ?_⟩
    refine Layout.accepts_optional_iff.mpr (Or.inr (Layout.accepts_list_iff.mpr ⟨_, rfl, ?_⟩))
    intro x hx
    obtain ⟨t, ht, rfl⟩ := List.mem_map.mp hx
    exact (h.remotes ts hts t ht).accepts_toJson

theorem Faithful.value?_toMembers (h : s.Faithful) (hkey : key ∈ knownFields.map (·.name)) :
    value? s.toMembers key = s.knownMembers.value? key := by
  rw [toMembers_eq, value?_append_of_others h.extra hkey]

theorem Faithful.array?_packages (h : s.Faithful) :
    array? s.toMembers "packages" = s.packages.map fun ps => ps.map Package.toJson := by
  refine array?_of_value? ?_
  rw [h.value?_toMembers (by decide)]
  simp [knownMembers, value?_append, value?_cons]
  rfl

theorem Faithful.array?_remotes (h : s.Faithful) :
    array? s.toMembers "remotes" = s.remotes.map fun ts => ts.map Transport.toJson := by
  refine array?_of_value? ?_
  rw [h.value?_toMembers (by decide)]
  simp [knownMembers, value?_append, value?_cons]
  rfl

theorem Faithful.others_toMembers (h : s.Faithful) :
    others s.toMembers (knownFields.map (·.name)) = s.extra := by
  rw [toMembers_eq]
  exact others_append_of_others (fun m hm => (fits_of_mem_knownMembers h hm).mem_names) h.extra

/-! ### Reading back -/

/-- Documents of values that read back one by one read back as a list. -/
theorem map_ofMembers_map_toJson {α : Type} {ofMembers : Members → α} {toJson : α → Json}
    {o : Option (List α)}
    (h : ∀ as, o = some as → ∀ a ∈ as, ofMembers (toJson a).members = a) :
    (o.map fun as => as.map toJson).map (fun xs => xs.map fun x => ofMembers x.members) = o := by
  cases o with
  | none => rfl
  | some as =>
    have hmap : (as.map toJson).map (fun x => ofMembers x.members) = as := by
      rw [List.map_map]
      exact (List.map_congr_left (h as rfl)).trans (List.map_id as)
    exact congrArg some hmap

/-- A faithful server reads back from its members. -/
theorem Faithful.ofMembers_toMembers (h : s.Faithful) : ofMembers s.toMembers = s := by
  have hname : string? s.toMembers "name" = some s.name :=
    string?_of_value? (by rw [h.value?_toMembers (by decide)]; rfl)
  have hdescription : string? s.toMembers "description" = s.description := by
    refine string?_of_value? ?_
    rw [h.value?_toMembers (by decide)]
    simp [knownMembers, value?_append, value?_cons]
  have hversion : string? s.toMembers "version" = s.version := by
    refine string?_of_value? ?_
    rw [h.value?_toMembers (by decide)]
    simp [knownMembers, value?_append, value?_cons]
  rw [ofMembers, hname, Option.getD_some, hdescription, hversion, h.array?_packages,
    h.array?_remotes, h.others_toMembers,
    map_ofMembers_map_toJson fun ps hps p hp => (h.packages ps hps p hp).ofMembers_toMembers,
    map_ofMembers_map_toJson fun ts hts t ht => (h.remotes ts hts t ht).ofMembers_toMembers]

theorem Faithful.accepts_toJson (h : s.Faithful) : layout.Accepts s.toJson := by
  refine Layout.accepts_openRecord_iff.mpr ⟨s.toMembers, rfl, ?_⟩
  rw [toMembers_eq]
  refine Layout.acceptsMembers_append (by decide) (fun m => fits_of_mem_knownMembers h) h.extra ?_
  simp [knownFields, knownMembers, Layout.Field.defaulted, Layout.Field.required, value?_append,
    value?_cons]

/-- **A faithful server reads back from its document.** -/
theorem Faithful.ofJson_toJson (h : s.Faithful) : ofJson s.toJson = .ok s :=
  h.accepts_toJson.map_decode.trans (congrArg Except.ok h.ofMembers_toMembers)

end Server

end Catalog
