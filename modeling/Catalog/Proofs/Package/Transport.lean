import Catalog.Proofs.Json.Accepts
import Catalog.Proofs.Table

/-!
# Documents of inputs and transports

Writing an input or a transport and reading it back gives the same value, for every value that was
read from a document: such a value has no member beside the known ones under a known name, and its
variables are sorted by name.

## Main definitions

* `Input.Faithful`, `Transport.Faithful` — the value is told apart from its extra members.

## Main results

* `Transport.faithful_ofMembers` — every transport that was read is faithful.
* `Transport.Faithful.accepts_toJson` — its document has the layout of a transport.
* `Input.Faithful.ofJson_toJson`, `Transport.Faithful.ofJson_toJson` — faithful inputs and
  transports read back from their documents.
-/

namespace Catalog

open Json (Layout Members)

/-! ### Members beside the known ones -/

namespace Json.Members

variable {ms ms' : Members} {known : List String} {key : String} {m : String × Json}

theorem mem_given_iff {α : Type} {encode : α → Json} {o : Option α} :
    m ∈ given key encode o ↔ ∃ a, o = some a ∧ m = (key, encode a) := by
  cases o <;> simp [given]

theorem mem_others_iff : m ∈ ms.others known ↔ m ∈ ms ∧ m.1 ∉ known := by
  simp [others]

theorem others_append : others (ms ++ ms') known = ms.others known ++ ms'.others known :=
  List.filter_append ..

theorem others_eq_nil (h : ∀ m ∈ ms, m.1 ∈ known) : ms.others known = [] := by
  rw [others, List.filter_eq_nil_iff]
  intro m hm
  simpa using h m hm

theorem others_eq_self (h : ∀ m ∈ ms, m.1 ∉ known) : ms.others known = ms := by
  rw [others, List.filter_eq_self]
  intro m hm
  simpa using h m hm

/-- Known members that are followed by others are found under their names. -/
theorem value?_append_of_others (h : ∀ m ∈ ms', m.1 ∉ known) (hkey : key ∈ known) :
    value? (ms ++ ms') key = ms.value? key := by
  have hnone : ms'.value? key = none := by
    rw [value?_eq_none_iff]
    intro hmem
    obtain ⟨m, hm, rfl⟩ := List.mem_map.mp hmem
    exact h m hm hkey
  rw [value?_append, hnone, Option.or_none]

/-- Of known members that are followed by others, the others are the latter. -/
theorem others_append_of_others (hms : ∀ m ∈ ms, m.1 ∈ known) (h : ∀ m ∈ ms', m.1 ∉ known) :
    others (ms ++ ms') known = ms' := by
  rw [others_append, others_eq_nil hms, others_eq_self h, List.nil_append]

/-! ### Keys that are all different -/

theorem keys_given_sublist {α : Type} (key : String) (encode : α → Json) (o : Option α) :
    (given key encode o).keys.Sublist [key] := by
  cases o with
  | none => exact List.nil_sublist _
  | some a => exact List.Sublist.refl _

theorem keys_others_nodup (h : ms.keys.Nodup) (known : List String) :
    (ms.others known).keys.Nodup :=
  h.sublist (List.filter_sublist.map _)

/-- Known members that are followed by others repeat no key. -/
theorem keys_append_nodup (hknown : known.Nodup) (hms : ms.keys.Sublist known)
    (h : ∀ m ∈ ms', m.1 ∉ known) (hms' : ms'.keys.Nodup) : (keys (ms ++ ms')).Nodup := by
  rw [keys, List.map_append]
  refine List.Nodup.append (hms.nodup hknown) hms' fun key hkey hmem => ?_
  obtain ⟨m, hm, rfl⟩ := List.mem_map.mp hmem
  exact h m hm (hms.subset hkey)

/-! ### Typed members -/

theorem string?_of_value? {o : Option String} (h : ms.value? key = o.map .str) :
    ms.string? key = o := by
  rw [string?, h]
  cases o <;> rfl

theorem bool?_of_value? {o : Option Bool} (h : ms.value? key = o.map .bool) :
    ms.bool? key = o := by
  rw [bool?, h]
  cases o <;> rfl

theorem array?_of_value? {o : Option (List Json)} (h : ms.value? key = o.map .arr) :
    ms.array? key = o := by
  rw [array?, h]
  cases o <;> rfl

theorem object?_of_value? {o : Option Members} (h : ms.value? key = o.map .obj) :
    ms.object? key = o := by
  rw [object?, h]
  cases o <;> rfl

end Json.Members

open Json.Members

/-! ### Inputs -/

namespace Input

variable {i : Input}

/-- No extra member has a known name. -/
def Faithful (i : Input) : Prop := ∀ m ∈ i.extra, m.1 ∉ knownFields.map (·.name)

theorem faithful_ofMembers (ms : Members) : (ofMembers ms).Faithful :=
  fun _ hm => (mem_others_iff.mp hm).2

/-- The known members of the document of an input. -/
def knownMembers (i : Input) : Members :=
  given "description" .str i.description ++ given "isRequired" .bool i.isRequired
    ++ given "isSecret" .bool i.isSecret ++ given "default" .str i.default
    ++ given "format" .str i.format ++ given "choices" Json.ofStrings i.choices

theorem toMembers_eq (i : Input) : i.toMembers = i.knownMembers ++ i.extra := rfl

theorem keys_knownMembers_sublist : i.knownMembers.keys.Sublist (knownFields.map (·.name)) := by
  simp only [keys, knownMembers, List.map_append]
  exact (((((keys_given_sublist ..).append (keys_given_sublist ..)).append
    (keys_given_sublist ..)).append (keys_given_sublist ..)).append
    (keys_given_sublist ..)).append (keys_given_sublist ..)

theorem fits_of_mem_knownMembers {m : String × Json} (h : m ∈ i.knownMembers) :
    Layout.Fits knownFields m := by
  simp only [knownMembers, List.mem_append, mem_given_iff] at h
  rcases h with ((((⟨s, -, rfl⟩ | ⟨b, -, rfl⟩) | ⟨b, -, rfl⟩) | ⟨s, -, rfl⟩) | ⟨s, -, rfl⟩) |
    ⟨xs, -, rfl⟩ <;> simp [Layout.Fits, knownFields, Layout.Field.defaulted, Json.ofStrings]

theorem Faithful.value?_toMembers {key : String} (h : i.Faithful)
    (hkey : key ∈ knownFields.map (·.name)) :
    value? i.toMembers key = i.knownMembers.value? key := by
  rw [toMembers_eq, value?_append_of_others h hkey]

theorem Faithful.others_toMembers (h : i.Faithful) :
    others i.toMembers (knownFields.map (·.name)) = i.extra := by
  rw [toMembers_eq]
  exact others_append_of_others (fun m hm => (fits_of_mem_knownMembers hm).mem_names) h

theorem filterMap_string?_map_str (xs : List String) :
    (xs.map Json.str).filterMap Json.string? = xs := by
  rw [List.filterMap_map]
  exact List.filterMap_some

/-- A faithful input reads back from its members. -/
theorem Faithful.ofMembers_toMembers (h : i.Faithful) : ofMembers i.toMembers = i := by
  have htext : ∀ (key : String) (o : Option String), key ∈ knownFields.map (·.name) →
      i.knownMembers.value? key = o.map .str → string? i.toMembers key = o := by
    intro key o hkey ho
    exact string?_of_value? (by rw [h.value?_toMembers hkey, ho])
  have htruth : ∀ (key : String) (o : Option Bool), key ∈ knownFields.map (·.name) →
      i.knownMembers.value? key = o.map .bool → bool? i.toMembers key = o := by
    intro key o hkey ho
    exact bool?_of_value? (by rw [h.value?_toMembers hkey, ho])
  have hchoices : array? i.toMembers "choices" = i.choices.map (·.map Json.str) := by
    refine array?_of_value? ?_
    rw [h.value?_toMembers (by decide)]
    simp [knownMembers, value?_append]
    rfl
  -- the choices read back one by one
  have hback : (i.choices.map (·.map Json.str)).map (·.filterMap Json.string?) = i.choices := by
    cases i.choices with
    | none => rfl
    | some xs => exact congrArg some (filterMap_string?_map_str xs)
  rw [ofMembers, hchoices, hback, h.others_toMembers,
    htext "description" i.description (by decide) (by simp [knownMembers, value?_append]),
    htruth "isRequired" i.isRequired (by decide) (by simp [knownMembers, value?_append]),
    htruth "isSecret" i.isSecret (by decide) (by simp [knownMembers, value?_append]),
    htext "default" i.default (by decide) (by simp [knownMembers, value?_append]),
    htext "format" i.format (by decide) (by simp [knownMembers, value?_append])]

theorem Faithful.accepts_toJson (h : i.Faithful) : layout.Accepts i.toJson := by
  refine Layout.accepts_openRecord_iff.mpr ⟨i.toMembers, rfl, ?_⟩
  rw [toMembers_eq]
  refine Layout.acceptsMembers_append (by decide) (fun m => fits_of_mem_knownMembers) h ?_
  simp [knownFields, Layout.Field.defaulted]

/-- The documents that are inputs, and the input that each of them is. -/
theorem ofJson_eq_ok_iff {v : Json} :
    ofJson v = .ok i ↔
      ∃ ms, v = .obj ms ∧ Layout.AcceptsMembers knownFields ms ∧ i = ofMembers ms :=
  Layout.map_decode_openRecord_eq_ok_iff

theorem faithful_of_ofJson {v : Json} (h : ofJson v = .ok i) : i.Faithful := by
  obtain ⟨ms, -, -, rfl⟩ := ofJson_eq_ok_iff.mp h
  exact faithful_ofMembers ms

/-- A faithful input reads back from its document. -/
theorem Faithful.ofJson_toJson (h : i.Faithful) : ofJson i.toJson = .ok i :=
  h.accepts_toJson.map_decode.trans (congrArg Except.ok h.ofMembers_toMembers)

end Input

/-! ### Transports -/

namespace TransportKind

theorem ofName?_name (k : TransportKind) : ofName? k.name = some k := by
  cases k <;> rfl

theorem name_mem_names (k : TransportKind) : k.name ∈ names := by
  cases k <;> decide

end TransportKind

namespace Transport

variable {t : Transport}

/-- No extra member has a known name, and the variables are sorted and faithful. -/
structure Faithful (t : Transport) : Prop where
  extra : ∀ m ∈ t.extra, m.1 ∉ knownFields.map (·.name)
  sorted : ∀ vs, t.inputs = some vs → Table.Sorted vs
  inputs : ∀ vs, t.inputs = some vs → ∀ e ∈ vs, e.2.Faithful

/-- The document of the variables. -/
def variablesJson (vs : Table Input) : Json := .obj (vs.map fun (k, i) => (k, i.toJson))

/-- No name occurs twice in the document of sorted variables. -/
theorem nodup_keys_variablesJson {vs : Table Input} (h : Table.Sorted vs) :
    (keys (variablesJson vs).members).Nodup := by
  rw [variablesJson, Json.members, keys, List.map_map]
  exact h.nodup_keys

/-- Every transport that was read is faithful. -/
theorem faithful_ofMembers (ms : Members) : (ofMembers ms).Faithful where
  extra := fun _ hm => (mem_others_iff.mp hm).2
  sorted := by
    intro vs h
    obtain ⟨ws, -, rfl⟩ := Option.map_eq_some_iff.mp h
    exact Table.sorted_ofList _
  inputs := by
    intro vs h e he
    obtain ⟨ws, -, rfl⟩ := Option.map_eq_some_iff.mp h
    obtain ⟨w, -, rfl⟩ := List.mem_map.mp (Table.mem_of_mem_ofList he)
    exact Input.faithful_ofMembers _

theorem faithful_stdio : stdio.Faithful := by
  constructor <;> simp [stdio, ofKind]

/-- The known members of the document of a transport. -/
def knownMembers (t : Transport) : Members :=
  [("type", Json.str t.kind.name)] ++ given "url" .str t.url ++ given "headers" .arr t.headers
    ++ given "variables" variablesJson t.inputs

theorem toMembers_eq (t : Transport) : t.toMembers = t.knownMembers ++ t.extra := rfl

theorem keys_knownMembers_sublist : t.knownMembers.keys.Sublist (knownFields.map (·.name)) := by
  simp only [keys, knownMembers, List.map_append]
  exact (((List.Sublist.refl _).append (keys_given_sublist ..)).append
    (keys_given_sublist ..)).append (keys_given_sublist ..)

theorem fits_of_mem_knownMembers (h : t.Faithful) {m : String × Json} (hm : m ∈ t.knownMembers) :
    Layout.Fits knownFields m := by
  simp only [knownMembers, List.mem_append, mem_given_iff, List.mem_singleton] at hm
  rcases hm with ((rfl | ⟨s, -, rfl⟩) | ⟨xs, -, rfl⟩) | ⟨vs, hvs, rfl⟩
  · exact ⟨_, List.mem_cons_self .., rfl, Layout.accepts_choice_of_mem t.kind.name_mem_names⟩
  · simp [Layout.Fits, knownFields, Layout.Field.defaulted]
  · simp [Layout.Fits, knownFields, Layout.Field.defaulted]
  · refine ⟨.defaulted "variables" (.optional (.table Input.layout)), by simp [knownFields], rfl,
      ?_⟩
    refine Layout.accepts_optional_iff.mpr (Or.inr (Layout.accepts_table_iff.mpr ⟨_, rfl, ?_⟩))
    intro e he
    obtain ⟨⟨k, i⟩, hi, rfl⟩ := List.mem_map.mp he
    exact (h.inputs vs hvs _ hi).accepts_toJson

theorem Faithful.value?_toMembers {key : String} (h : t.Faithful)
    (hkey : key ∈ knownFields.map (·.name)) :
    value? t.toMembers key = t.knownMembers.value? key := by
  rw [toMembers_eq, value?_append_of_others h.extra hkey]

theorem Faithful.others_toMembers (h : t.Faithful) :
    others t.toMembers (knownFields.map (·.name)) = t.extra := by
  rw [toMembers_eq]
  exact others_append_of_others (fun m hm => (fits_of_mem_knownMembers h hm).mem_names) h.extra

/-- The variables are written as the members of an object. -/
theorem Faithful.object?_variables (h : t.Faithful) : object? t.toMembers "variables" =
    t.inputs.map fun vs => vs.map fun (k, i) => (k, i.toJson) := by
  refine object?_of_value? ?_
  rw [h.value?_toMembers (by decide)]
  simp [knownMembers, value?_append, value?_cons]
  rfl

/-- The variables of a faithful transport read back. -/
theorem ofList_map_toJson {vs : Table Input} (hsorted : Table.Sorted vs)
    (hfaithful : ∀ e ∈ vs, e.2.Faithful) :
    Table.ofList ((vs.map fun (k, i) => (k, i.toJson)).map fun (k, v) =>
      (k, Input.ofMembers v.members)) = vs := by
  have hmap : (vs.map fun (k, i) => (k, i.toJson)).map (fun (k, v) =>
      (k, Input.ofMembers v.members)) = vs := by
    rw [List.map_map]
    conv => rhs; rw [← List.map_id vs]
    refine List.map_congr_left fun e he => ?_
    exact Prod.ext rfl (hfaithful e he).ofMembers_toMembers
  rw [hmap, hsorted.ofList_eq]

/-- A faithful transport reads back from its members. -/
theorem Faithful.ofMembers_toMembers (h : t.Faithful) : ofMembers t.toMembers = t := by
  have htype : value? t.toMembers "type" = some (.str t.kind.name) := by
    rw [h.value?_toMembers (by decide)]
    rfl
  have hurl : string? t.toMembers "url" = t.url := by
    refine string?_of_value? ?_
    rw [h.value?_toMembers (by decide)]
    simp [knownMembers, value?_append, value?_cons]
  have hheaders : array? t.toMembers "headers" = t.headers := by
    refine array?_of_value? ?_
    rw [h.value?_toMembers (by decide)]
    simp [knownMembers, value?_append, value?_cons]
  have hkind : ((some (Json.str t.kind.name)).bind TransportKind.ofJson?).getD .stdio = t.kind :=
    congrArg (·.getD .stdio) t.kind.ofName?_name
  -- the variables read back one by one
  have hback : (t.inputs.map fun vs => vs.map fun (k, i) => (k, i.toJson)).map (fun vs =>
      Table.ofList (vs.map fun (k, v) => (k, Input.ofMembers v.members))) = t.inputs := by
    cases hinputs : t.inputs with
    | none => rfl
    | some vs =>
      exact congrArg some (ofList_map_toJson (h.sorted vs hinputs) (h.inputs vs hinputs))
  rw [ofMembers, htype, hkind, hurl, hheaders, h.object?_variables, hback, h.others_toMembers]

theorem Faithful.accepts_toJson (h : t.Faithful) : layout.Accepts t.toJson := by
  refine Layout.accepts_openRecord_iff.mpr ⟨t.toMembers, rfl, ?_⟩
  rw [toMembers_eq]
  refine Layout.acceptsMembers_append (by decide) (fun m => fits_of_mem_knownMembers h) h.extra ?_
  simp [knownFields, knownMembers, Layout.Field.defaulted, Layout.Field.required, value?_append,
    value?_cons]

/-- The documents that are transports, and the transport that each of them is. -/
theorem ofJson_eq_ok_iff {v : Json} :
    ofJson v = .ok t ↔
      ∃ ms, v = .obj ms ∧ Layout.AcceptsMembers knownFields ms ∧ t = ofMembers ms :=
  Layout.map_decode_openRecord_eq_ok_iff

theorem faithful_of_ofJson {v : Json} (h : ofJson v = .ok t) : t.Faithful := by
  obtain ⟨ms, -, -, rfl⟩ := ofJson_eq_ok_iff.mp h
  exact faithful_ofMembers ms

/-- A faithful transport reads back from its document. -/
theorem Faithful.ofJson_toJson (h : t.Faithful) : ofJson t.toJson = .ok t :=
  h.accepts_toJson.map_decode.trans (congrArg Except.ok h.ofMembers_toMembers)

end Transport

end Catalog
