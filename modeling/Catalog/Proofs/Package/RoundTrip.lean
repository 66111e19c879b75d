import Catalog.Proofs.Json.WellFormed
import Catalog.Proofs.Package.Server

/-!
# Documents that are written as they were read

What was read from a document is read again from the document that is written for it. Writing what
was read is therefore a normal form of documents, the order of the members included. It loses no
member without a meaning of its own, at whichever level of the document the member stands.

## Main definitions

* `SameOthers` — two documents have the same members beside the known ones.
* `Transport.Carries`, `Package.Carries`, `Server.Carries` — so have all their parts.
* `RoundTrips` — what is asked of reading and writing the documents of one kind.

## Main results

* `Transport.carries_toJson`, `Package.carries_toJson`, `Server.carries_toJson` — what was read is
  written with all members beside the known ones.
* `documents_roundTrip` — **documents of all four kinds round-trip.**
-/

namespace Catalog

open Json (Layout Members)
open Json.Members

variable {v w : Json}

/-! ### Members without a meaning -/

/-- The members beside the fields are the same in both documents, with the same values and in the
same order. -/
def SameOthers (fields : List Layout.Field) (v w : Json) : Prop :=
  w.members.others (fields.map (·.name)) = v.members.others (fields.map (·.name))

theorem Input.sameOthers_toJson (v : Json) :
    SameOthers knownFields v (ofMembers v.members).toJson :=
  (faithful_ofMembers v.members).others_toMembers

/-- What is kept of the document `v` of a transport in the document `w`. -/
structure Transport.Carries (v w : Json) : Prop where
  others : SameOthers knownFields v w
  /-- The variables may come in another order. -/
  inputs : ∀ vs, v.members.object? "variables" = some vs →
    ∃ ws, w.members.object? "variables" = some ws ∧
      ∀ name x, (name, x) ∈ vs → ∃ y, ws.value? name = some y ∧ SameOthers Input.knownFields x y

/-- What is kept of the document `v` of a package in the document `w`. -/
structure Package.Carries (v w : Json) : Prop where
  others : SameOthers knownFields v w
  transport : ∀ x, v.members.given? "transport" = some x →
    ∃ y, w.members.given? "transport" = some y ∧ Transport.Carries x y

/-- What is kept of the document `v` of a server in the document `w`. -/
structure Server.Carries (v w : Json) : Prop where
  others : SameOthers knownFields v w
  packages : ∀ xs, v.members.array? "packages" = some xs →
    ∃ ys, w.members.array? "packages" = some ys ∧ List.Forall₂ Package.Carries xs ys
  remotes : ∀ xs, v.members.array? "remotes" = some xs →
    ∃ ys, w.members.array? "remotes" = some ys ∧ List.Forall₂ Transport.Carries xs ys

/-- Every variable is written under its name. -/
theorem Transport.value?_written_variable {vs : Members} (hvs : vs.keys.Nodup) {name : String}
    {x : Json} (hx : (name, x) ∈ vs) :
    Members.value? ((Table.ofList (vs.map fun (k, v) => (k, Input.ofMembers v.members))).map
      fun (k, i) => (k, i.toJson)) name = some (Input.ofMembers x.members).toJson := by
  have hkeys : (vs.map fun (k, v) => (k, Input.ofMembers v.members)).map Prod.fst = vs.keys := by
    rw [List.map_map]
    rfl
  have hread : (name, Input.ofMembers x.members) ∈
      Table.ofList (vs.map fun (k, v) => (k, Input.ofMembers v.members)) :=
    (Table.ofList_perm (hkeys ▸ hvs)).mem_iff.mpr (List.mem_map_of_mem hx)
  exact value?_of_mem (nodup_keys_variablesJson (Table.sorted_ofList _))
    (List.mem_map_of_mem hread)

/-- A transport is written with all members beside the known ones. -/
theorem Transport.carries_toJson {t : Transport} (hv : v.WellFormed) (h : ofJson v = .ok t) :
    Carries v t.toJson := by
  obtain ⟨ms, rfl, -, rfl⟩ := ofJson_eq_ok_iff.mp h
  have hfaithful := faithful_ofMembers ms
  refine ⟨hfaithful.others_toMembers, fun vs hvs => ?_⟩
  have hread : (ofMembers ms).inputs =
      some (Table.ofList (vs.map fun (k, v) => (k, Input.ofMembers v.members))) :=
    congrArg (Option.map _) hvs
  have hwritten := hfaithful.object?_variables
  rw [hread, Option.map_some] at hwritten
  have hkeys := (Json.wellFormed_obj_iff.mp (hv.of_value? (object?_eq_some_iff.mp hvs))).1
  exact ⟨_, hwritten, fun name x hx =>
    ⟨_, value?_written_variable hkeys hx, Input.sameOthers_toJson x⟩⟩

/-- A package is written with all members beside the known ones. -/
theorem Package.carries_toJson {p : Package} (hv : v.WellFormed) (h : ofJson v = .ok p) :
    Carries v p.toJson := by
  have hfaithful := faithful_of_ofJson h
  constructor
  · obtain ⟨ms, rfl, -, rfl⟩ := ofJson_eq_ok_iff.mp h
    exact hfaithful.others_toMembers
  · intro x hx
    obtain ⟨t, ht, htransport⟩ := ofJson_transport_of_ofJson h hx
    have hwritten : value? p.toMembers "transport" = some t.toJson := by
      rw [hfaithful.value?_transport, htransport, Option.map_some]
    refine ⟨t.toJson, given?_eq_some_iff.mpr ⟨hwritten, by simp [Transport.toJson]⟩, ?_⟩
    obtain ⟨ms, rfl, -, -⟩ := ofJson_eq_ok_iff.mp h
    exact Transport.carries_toJson (hv.of_value? (given?_eq_some_iff.mp hx).1) ht

/-- The items of an array are written one by one. -/
theorem forall₂_carries {α : Type} {l : Layout} {ofMembers : Members → α} {toJson : α → Json}
    {Carries : Json → Json → Prop} {xs : List Json} (hwell : (Json.arr xs).WellFormed)
    (hxs : ∀ x ∈ xs, l.Accepts x)
    (h : ∀ x, x.WellFormed → (l.decode x).map (fun v => ofMembers v.members) =
      .ok (ofMembers x.members) → Carries x (toJson (ofMembers x.members))) :
    List.Forall₂ Carries xs ((xs.map fun v => ofMembers v.members).map toJson) := by
  rw [List.map_map, List.forall₂_map_right_iff, List.forall₂_same]
  exact fun x hx => h x (Json.wellFormed_arr_iff.mp hwell x hx) (hxs x hx).map_decode

/-- A server is written with all members beside the known ones. -/
theorem Server.carries_toJson {s : Server} (hv : v.WellFormed) (h : ofJson v = .ok s) :
    Carries v s.toJson := by
  obtain ⟨ms, rfl, hms, rfl⟩ := ofJson_eq_ok_iff.mp h
  have hfaithful := faithful_ofMembers ms
  refine ⟨hfaithful.others_toMembers, fun xs hxs => ?_, fun xs hxs => ?_⟩
  · have hread : (ofMembers ms).packages = some (xs.map fun v => Package.ofMembers v.members) :=
      congrArg (Option.map _) hxs
    have hwritten := hfaithful.array?_packages
    rw [hread, Option.map_some] at hwritten
    refine ⟨_, hwritten, forall₂_carries (hv.of_value? (array?_eq_some_iff.mp hxs)) ?_ fun x =>
      Package.carries_toJson⟩
    exact hms.items (by decide) (by simp [knownFields]) hxs
  · have hread : (ofMembers ms).remotes = some (xs.map fun v => Transport.ofMembers v.members) :=
      congrArg (Option.map _) hxs
    have hwritten := hfaithful.array?_remotes
    rw [hread, Option.map_some] at hwritten
    refine ⟨_, hwritten, forall₂_carries (hv.of_value? (array?_eq_some_iff.mp hxs)) ?_ fun x =>
      Transport.carries_toJson⟩
    exact hms.items (by decide) (by simp [knownFields]) hxs

/-! ### Round trips -/

/-- What is asked of reading and writing the documents of one kind. -/
structure RoundTrips {α : Type} (read : Json → Except Json.Defect α) (write : α → Json)
    (Carries : Json → Json → Prop) : Prop where
  /-- What was read is read again from what is written for it. -/
  readsBack : ∀ v a, read v = .ok a → read (write a) = .ok a
  /-- What is written for what was read is a normal form: it is written again as it is. -/
  isNormal : ∀ v w, (read v).map write = .ok w → (read w).map write = .ok w
  /-- What was read is written with all members without a meaning of their own. -/
  carries : ∀ v a, v.WellFormed → read v = .ok a → Carries v (write a)

/-- Where what was read reads back, writing it is a normal form. -/
theorem RoundTrips.of_readsBack {α : Type} {read : Json → Except Json.Defect α}
    {write : α → Json} {Carries : Json → Json → Prop}
    (hback : ∀ v a, read v = .ok a → read (write a) = .ok a)
    (hcarries : ∀ v a, v.WellFormed → read v = .ok a → Carries v (write a)) :
    RoundTrips read write Carries where
  readsBack := hback
  isNormal := by
    intro v w h
    cases hread : read v with
    | error d =>
      rw [hread] at h
      cases h
    | ok a =>
      rw [hread] at h
      obtain rfl : write a = w := Except.ok.inj h
      rw [hback v a hread]
      rfl
  carries := hcarries

/-- **Documents of all four kinds round-trip.** -/
theorem documents_roundTrip :
    RoundTrips Input.ofJson Input.toJson (SameOthers Input.knownFields) ∧
      RoundTrips Transport.ofJson Transport.toJson Transport.Carries ∧
      RoundTrips Package.ofJson Package.toJson Package.Carries ∧
      RoundTrips Server.ofJson Server.toJson Server.Carries := by
  refine ⟨.of_readsBack ?_ ?_, .of_readsBack ?_ ?_, .of_readsBack ?_ ?_, .of_readsBack ?_ ?_⟩
  · exact fun v i h => (Input.faithful_of_ofJson h).ofJson_toJson
  · intro v i _ h
    obtain ⟨ms, rfl, -, rfl⟩ := Input.ofJson_eq_ok_iff.mp h
    exact Input.sameOthers_toJson (.obj ms)
  · exact fun v t h => (Transport.faithful_of_ofJson h).ofJson_toJson
  · exact fun v t => Transport.carries_toJson
  · exact fun v p h => (Package.faithful_of_ofJson h).ofJson_toJson
  · exact fun v p => Package.carries_toJson
  · exact fun v s h => (Server.faithful_of_ofJson h).ofJson_toJson
  · exact fun v s => Server.carries_toJson

/-- A document with a member without a meaning at each level, members that are empty or `null`, a
registry type that has no meaning, and variables out of order. -/
def storedServer : Json := .obj
  [("website", .str "https://a.b"), ("description", .null), ("name", .str "a/b"),
    ("packages", .arr [.obj
      [("license", .str "MIT"), ("identifier", .str ""),
        ("transport", .obj
          [("retry", .null), ("url", .str "https://\x7bhost\x7d"), ("type", .obj [("sse", .null)]),
            ("variables", .obj
              [("port", .obj []),
                ("host", .obj
                  [("since", .str "2"), ("format", .null), ("isSecret", .bool true)])])]),
        ("registryType", .str "cargo")]])]

/-- The same document in its normal form. -/
def writtenServer : Json := .obj
  [("name", .str "a/b"),
    ("packages", .arr [.obj
      [("registryType", .str "cargo"),
        ("transport", .obj
          [("type", .str "sse"), ("url", .str "https://\x7bhost\x7d"),
            ("variables", .obj
              [("host", .obj [("isSecret", .bool true), ("since", .str "2")]),
                ("port", .obj [])]),
            ("retry", .null)]),
        ("license", .str "MIT")]]),
    ("website", .str "https://a.b")]

theorem documents_roundTrip_storedServer : ∃ s,
    Server.ofJson storedServer = .ok s ∧ s.toJson = writtenServer ∧
      Server.ofJson writtenServer = .ok s ∧ Server.Carries storedServer writtenServer ∧
      (Server.ofJson writtenServer).map Server.toJson = .ok writtenServer := by
  have hread : Server.ofJson storedServer = .ok (.ofMembers storedServer.members) := rfl
  have hwritten : (Server.ofMembers storedServer.members).toJson = writtenServer := rfl
  have hwell : storedServer.WellFormed := by
    simp [storedServer, keys, Json.WellFormed.str, Json.WellFormed.null, Json.WellFormed.bool]
  have htrips := documents_roundTrip.2.2.2
  have hnormal := htrips.isNormal storedServer writtenServer (by rw [hread, ← hwritten]; rfl)
  rw [← hwritten] at hnormal ⊢
  exact ⟨_, hread, rfl, htrips.readsBack _ _ hread, htrips.carries _ _ hwell hread, hnormal⟩

end Catalog
