import Catalog.Proofs.Canonical.Package
import Catalog.Proofs.Package.Transport

/-!
# Documents of packages

Writing a package and reading it back gives the same package, for every package that was read from
a document. Canonicalization keeps to such packages. What it looks at can be read off the document
even when the document is no package as a whole.

## Main definitions

* `Package.Faithful` — the package is told apart from its extra members.
* `Package.projection` — what canonicalization looks at.

## Main results

* `Package.ofJson_eq_ok_iff` — which documents are packages.
* `Package.Faithful.ofJson_toJson` — **a faithful package reads back from its document.**
* `Package.project?_of_ofJson` — the projection of a document that is a package.
* `Package.string?_registryType_of_ofJson`, `Package.given?_runtimeHint_of_ofJson`,
  `Package.ofJson_transport_of_ofJson` — what a package tells about the members of its document.
-/

namespace Catalog

open Json (Layout Members)
open Json.Members

namespace Package

variable {p q : Package} {v : Json} {ms : Members}

/-- The registry type is known by its name, no extra member has a known name, and the transport is
faithful. -/
structure Faithful (p : Package) : Prop where
  registryType : RegistryType.ofName p.registryType.name = p.registryType
  extra : ∀ m ∈ p.extra, m.1 ∉ knownFields.map (·.name)
  transport : ∀ t, p.transport = some t → t.Faithful

/-- Every package that was read is faithful. -/
theorem faithful_ofMembers (ms : Members) : (ofMembers ms).Faithful where
  registryType := by rw [ofMembers, RegistryType.name_ofName]
  extra := fun _ hm => (mem_others_iff.mp hm).2
  transport := by
    intro t ht
    obtain ⟨inner, -, rfl⟩ := Option.map_eq_some_iff.mp ht
    exact Transport.faithful_ofMembers inner

/-- The documents that are packages, and the package that each of them is. -/
theorem ofJson_eq_ok_iff :
    ofJson v = .ok p ↔
      ∃ ms, v = .obj ms ∧ Layout.AcceptsMembers knownFields ms ∧ p = ofMembers ms :=
  Layout.map_decode_openRecord_eq_ok_iff

theorem faithful_of_ofJson (h : ofJson v = .ok p) : p.Faithful := by
  obtain ⟨ms, -, -, rfl⟩ := ofJson_eq_ok_iff.mp h
  exact faithful_ofMembers ms

/-! ### The members that are written -/

/-- The identifier as a member; an empty one is left out. -/
def identifierMember (p : Package) : Option String :=
  if p.identifier.isEmpty then none else some p.identifier

theorem getD_identifierMember (p : Package) : p.identifierMember.getD "" = p.identifier := by
  rw [identifierMember]
  split
  · next h => exact (String.isEmpty_iff.mp h).symm
  · rfl

/-- The known members of the document of a package. -/
def knownMembers (p : Package) : Members :=
  [("registryType", .str p.registryType.name)]
    ++ given "registryBaseUrl" .str p.registryBaseUrl
    ++ given "identifier" .str p.identifierMember
    ++ given "version" .str p.version
    ++ given "fileSha256" .str p.fileSha256
    ++ given "runtimeHint" .str p.runtimeHint
    ++ given "transport" Transport.toJson p.transport

theorem toMembers_eq (p : Package) : p.toMembers = p.knownMembers ++ p.extra := by
  have hid : (if p.identifier.isEmpty then [] else [("identifier", Json.str p.identifier)]) =
      given "identifier" .str p.identifierMember := by
    rw [identifierMember]
    split <;> rfl
  rw [toMembers, hid]
  rfl

theorem keys_knownMembers_sublist : p.knownMembers.keys.Sublist (knownFields.map (·.name)) := by
  simp only [keys, knownMembers, List.map_append]
  exact ((((((List.Sublist.refl _).append (keys_given_sublist ..)).append
    (keys_given_sublist ..)).append (keys_given_sublist ..)).append
    (keys_given_sublist ..)).append (keys_given_sublist ..)).append (keys_given_sublist ..)

theorem fits_of_mem_knownMembers (h : p.Faithful) {m : String × Json}
    (hm : m ∈ p.knownMembers) : Layout.Fits knownFields m := by
  simp only [knownMembers, List.mem_append, mem_given_iff, List.mem_singleton] at hm
  rcases hm with (((((rfl | ⟨s, -, rfl⟩) | ⟨s, -, rfl⟩) | ⟨s, -, rfl⟩) | ⟨s, -, rfl⟩) |
    ⟨s, -, rfl⟩) | ⟨t, ht, rfl⟩
  -- the transport is written by its own layout, all other members are texts
  case inr =>
    refine ⟨.defaulted "transport" (.optional Transport.layout), by simp [knownFields], rfl, ?_⟩
    exact Layout.accepts_optional_iff.mpr (Or.inr (h.transport t ht).accepts_toJson)
  all_goals simp [Layout.Fits, knownFields, Layout.Field.defaulted, Layout.Field.required]

theorem Faithful.value?_toMembers {key : String} (h : p.Faithful)
    (hkey : key ∈ knownFields.map (·.name)) :
    value? p.toMembers key = p.knownMembers.value? key := by
  rw [toMembers_eq, value?_append_of_others h.extra hkey]

theorem Faithful.value?_identifier (h : p.Faithful) :
    value? p.toMembers "identifier" = p.identifierMember.map .str := by
  rw [h.value?_toMembers (by decide)]
  simp [knownMembers, value?_append, value?_cons]

theorem Faithful.value?_transport (h : p.Faithful) :
    value? p.toMembers "transport" = p.transport.map Transport.toJson := by
  rw [h.value?_toMembers (by decide)]
  simp [knownMembers, value?_append, value?_cons]

theorem Faithful.others_toMembers (h : p.Faithful) :
    others p.toMembers (knownFields.map (·.name)) = p.extra := by
  rw [toMembers_eq]
  exact others_append_of_others (fun m hm => (fits_of_mem_knownMembers h hm).mem_names) h.extra

/-! ### Reading back -/

/-- A faithful package reads back from its members. -/
theorem Faithful.ofMembers_toMembers (h : p.Faithful) : ofMembers p.toMembers = p := by
  have htype : string? p.toMembers "registryType" = some p.registryType.name :=
    string?_of_value? (by rw [h.value?_toMembers (by decide)]; rfl)
  have htransport : object? p.toMembers "transport" = p.transport.map Transport.toMembers :=
    object?_of_value? (by rw [h.value?_transport, Option.map_map]; rfl)
  have htext : ∀ (key : String) (o : Option String), key ∈ knownFields.map (·.name) →
      p.knownMembers.value? key = o.map .str → string? p.toMembers key = o := by
    intro key o hkey ho
    exact string?_of_value? (by rw [h.value?_toMembers hkey, ho])
  rw [ofMembers, htype, string?_of_value? h.value?_identifier, getD_identifierMember, htransport,
    h.others_toMembers,
    htext "registryBaseUrl" p.registryBaseUrl (by decide)
      (by simp [knownMembers, value?_append, value?_cons]),
    htext "version" p.version (by decide) (by simp [knownMembers, value?_append, value?_cons]),
    htext "fileSha256" p.fileSha256 (by decide)
      (by simp [knownMembers, value?_append, value?_cons]),
    htext "runtimeHint" p.runtimeHint (by decide)
      (by simp [knownMembers, value?_append, value?_cons])]
  -- the transport reads back by itself
  have hback : (p.transport.map Transport.toMembers).map Transport.ofMembers = p.transport := by
    cases ht : p.transport with
    | none => rfl
    | some t => exact congrArg some (h.transport t ht).ofMembers_toMembers
  rw [hback, Option.getD_some, h.registryType]

theorem Faithful.accepts_toJson (h : p.Faithful) : layout.Accepts p.toJson := by
  refine Layout.accepts_openRecord_iff.mpr ⟨p.toMembers, rfl, ?_⟩
  rw [toMembers_eq]
  refine Layout.acceptsMembers_append (by decide) (fun m => fits_of_mem_knownMembers h) h.extra ?_
  simp [knownFields, knownMembers, Layout.Field.defaulted, Layout.Field.required, value?_append,
    value?_cons]

/-- **A faithful package reads back from its document.** -/
theorem Faithful.ofJson_toJson (h : p.Faithful) : ofJson p.toJson = .ok p :=
  h.accepts_toJson.map_decode.trans (congrArg Except.ok h.ofMembers_toMembers)

/-- Faithful packages have different documents. -/
theorem Faithful.toJson_inj (hp : p.Faithful) (hq : q.Faithful) : p.toJson = q.toJson ↔ p = q := by
  refine ⟨fun h => ?_, congrArg toJson⟩
  have hok := hp.ofJson_toJson
  rw [h, hq.ofJson_toJson] at hok
  exact (Except.ok.inj hok).symm

theorem Faithful.canonicalize (h : p.Faithful) : p.canonicalize.Faithful := by
  rw [canonicalize_eq_fields]
  refine ⟨h.registryType, h.extra, ?_⟩
  intro t ht
  obtain rfl := Option.some.inj ht
  cases htransport : p.transport with
  | none => exact Transport.faithful_stdio
  | some t => exact h.transport t htransport

/-! ### The projection -/

/-- What the projection of the document of a package leaves of it. -/
def projection (p : Package) : Package :=
  { p with runtimeHint := none, transport := none, extra := [] }

theorem project?_eq_some_iff : project? v = some q ↔
    ∃ type url identifier version hash,
      v.members.string? "registryType" = some type ∧
      textMember? v.members "registryBaseUrl" = some url ∧
      textMember? v.members "identifier" = some identifier ∧
      textMember? v.members "version" = some version ∧
      textMember? v.members "fileSha256" = some hash ∧
      q = ⟨.ofName type, url, identifier.getD "", version, hash, none, none, []⟩ := by
  simp only [project?, Option.bind_eq_bind, Option.bind_eq_some_iff, Option.pure_def,
    Option.some.injEq]
  constructor
  · rintro ⟨type, htype, url, hurl, identifier, hid, version, hversion, hash, hhash, rfl⟩
    exact ⟨type, url, identifier, version, hash, htype, hurl, hid, hversion, hhash, rfl⟩
  · rintro ⟨type, url, identifier, version, hash, htype, hurl, hid, hversion, hhash, rfl⟩
    exact ⟨type, htype, url, hurl, identifier, hid, version, hversion, hash, hhash, rfl⟩

/-- Only an object has a projection. -/
theorem exists_obj_of_project? (h : project? v = some p) : ∃ ms, v = .obj ms := by
  obtain ⟨type, -, -, -, -, htype, -⟩ := project?_eq_some_iff.mp h
  cases v with
  | obj ms => exact ⟨ms, rfl⟩
  | _ => simp [Json.members, string?] at htype

theorem textMember?_eq_some_iff {key : String} {o : Option String} : textMember? ms key = some o ↔
    ((ms.value? key = none ∨ ms.value? key = some .null) ∧ o = none) ∨
      ∃ s, ms.value? key = some (.str s) ∧ o = some s := by
  rw [textMember?]
  cases hv : ms.value? key with
  | none => simp [eq_comm]
  | some v => cases v <;> simp [eq_comm]

/-- A member that is projected is given just when its text is. -/
theorem given?_of_textMember? {key : String} {o : Option String}
    (h : textMember? ms key = some o) : ms.given? key = o.map .str := by
  rw [given?]
  rcases textMember?_eq_some_iff.mp h with ⟨hv | hv, rfl⟩ | ⟨s, hv, rfl⟩ <;> rw [hv] <;> rfl

theorem string?_of_textMember? {key : String} {o : Option String}
    (h : textMember? ms key = some o) : ms.string? key = o := by
  rw [string?]
  rcases textMember?_eq_some_iff.mp h with ⟨hv | hv, rfl⟩ | ⟨s, hv, rfl⟩ <;> rw [hv]

/-- A member that may be a text or `null` is projected to its text. -/
theorem textMember?_eq {key : String}
    (h : ∀ v, ms.value? key = some v → v = .null ∨ ∃ s, v = .str s) :
    textMember? ms key = some (ms.string? key) := by
  rw [textMember?, string?]
  cases hv : ms.value? key with
  | none => rfl
  | some v =>
    rcases h v hv with rfl | ⟨s, rfl⟩ <;> rfl

/-- The optional texts of a package are projected. -/
theorem textMember?_of_acceptsMembers {key : String} (h : Layout.AcceptsMembers knownFields ms)
    (hkey : .defaulted key (.optional .string) ∈ knownFields) :
    textMember? ms key = some (ms.string? key) := by
  refine textMember?_eq fun v hv => ?_
  have haccepts := Layout.accepts_optional_iff.mp ((h.holds (by decide) hkey).accepts v hv)
  exact haccepts.imp_right Layout.accepts_string_iff.mp

/-- The projection of a document that is a package. -/
theorem project?_of_ofJson (h : ofJson v = .ok p) : project? v = some p.projection := by
  obtain ⟨ms, rfl, haccepts, rfl⟩ := ofJson_eq_ok_iff.mp h
  have hid : textMember? ms "identifier" = some (string? ms "identifier") := by
    have hfield : (Layout.Field.defaulted "identifier" .string).Holds ms :=
      haccepts.holds (by decide) (by simp [knownFields])
    exact textMember?_eq fun v hv => Or.inr (Layout.accepts_string_iff.mp (hfield.accepts v hv))
  have htype : ∃ type, string? ms "registryType" = some type := by
    have hfield : (Layout.Field.required "registryType" .string).Holds ms :=
      haccepts.holds (by decide) (by simp [knownFields])
    obtain ⟨v, hv⟩ := Option.ne_none_iff_exists'.mp (hfield.present rfl)
    obtain ⟨s, rfl⟩ := Layout.accepts_string_iff.mp (hfield.accepts v hv)
    exact ⟨s, string?_eq_some_iff.mpr hv⟩
  obtain ⟨type, htype⟩ := htype
  have htext : ∀ key, .defaulted key (.optional .string) ∈ knownFields →
      textMember? ms key = some (string? ms key) := fun _ => textMember?_of_acceptsMembers haccepts
  refine project?_eq_some_iff.mpr ⟨type, _, _, _, _, htype, htext _ (by simp [knownFields]), hid,
    htext _ (by simp [knownFields]), htext _ (by simp [knownFields]), ?_⟩
  rw [projection, ofMembers, htype, Option.getD_some]

theorem string?_registryType_of_ofJson (h : ofJson v = .ok p) :
    v.members.string? "registryType" = some p.registryType.name := by
  obtain ⟨type, _, _, _, _, htype, -, -, -, -, heq⟩ :=
    project?_eq_some_iff.mp (project?_of_ofJson h)
  have hname : p.registryType = .ofName type := congrArg Package.registryType heq
  rw [hname, RegistryType.name_ofName, htype]

/-- A hint that is given is that of the package. -/
theorem given?_runtimeHint_of_ofJson (h : ofJson v = .ok p) :
    v.members.given? "runtimeHint" = p.runtimeHint.map .str := by
  obtain ⟨ms, rfl, haccepts, rfl⟩ := ofJson_eq_ok_iff.mp h
  exact given?_of_textMember? (textMember?_of_acceptsMembers haccepts (by simp [knownFields]))

/-- A transport that is given is that of the package. -/
theorem ofJson_transport_of_ofJson {w : Json} (h : ofJson v = .ok p)
    (hw : v.members.given? "transport" = some w) :
    ∃ t, Transport.ofJson w = .ok t ∧ p.transport = some t := by
  obtain ⟨ms, rfl, haccepts, rfl⟩ := ofJson_eq_ok_iff.mp h
  obtain ⟨hvalue, hnull⟩ := given?_eq_some_iff.mp hw
  have hfield : (Layout.Field.defaulted "transport" (.optional Transport.layout)).Holds ms :=
    haccepts.holds (by decide) (by simp [knownFields])
  have hlayout := (Layout.accepts_optional_iff.mp (hfield.accepts w hvalue)).resolve_left hnull
  obtain ⟨inner, rfl, hinner⟩ := Layout.accepts_openRecord_iff.mp hlayout
  have hobject : object? ms "transport" = some inner := object?_eq_some_iff.mpr hvalue
  exact ⟨_, Transport.ofJson_eq_ok_iff.mpr ⟨inner, rfl, hinner, rfl⟩,
    congrArg (Option.map Transport.ofMembers) hobject⟩

end Package

end Catalog
