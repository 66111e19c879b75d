import Catalog.Proofs.Except
import Catalog.Proofs.Json.Members

/-!
# Documents that have a layout

Which documents a layout accepts, layout by layout. The later theory decodes and encodes documents
through these statements and does not look into the checks.

## Main definitions

* `Layout.Accepts` — a document has a layout.
* `Layout.AcceptsMembers` — the members of an object are those of a record.
* `Layout.Field.Holds` — the member of one field is as it should be.
* `Layout.Fits` — one member is as its field should be.

## Main results

* `decode_eq_ok_iff` — a document decodes to itself, if it has the layout.
* `map_decode_openRecord_eq_ok_iff` — what a record decodes to.
* `acceptsMembers_iff` — the members of a record, field by field.
* `AcceptsMembers.set`, `AcceptsMembers.remove` — a record after one of its members was changed.
-/

namespace Catalog

namespace Json.Layout

/-- The document has the layout. -/
def Accepts (l : Layout) (v : Json) : Prop := l.check v = .ok ()

/-- The members are those of a record with the fields given: each known one has its layout, and no
required one is missing. -/
def AcceptsMembers (fields : List Field) (ms : Members) : Prop :=
  (∀ m ∈ ms, ∀ f, fields.find? (·.name == m.1) = some f → f.layout.Accepts m.2) ∧
    missing? fields ms = none

variable {l : Layout} {v w : Json} {ms : Members} {fields : List Field} {key : String}

/-- A document decodes to itself, if it has the layout. -/
theorem decode_eq_ok_iff : l.decode v = .ok w ↔ l.Accepts v ∧ w = v := by
  rw [decode, Accepts]
  cases l.check v <;> simp [eq_comm]

/-- What a document with the layout decodes to. -/
theorem Accepts.map_decode {α : Type} {f : Json → α} (h : l.Accepts v) :
    (l.decode v).map f = .ok (f v) := by
  rw [decode_eq_ok_iff.mpr ⟨h, rfl⟩]
  rfl

/-! ### Plain layouts -/

@[simp] theorem accepts_any : any.Accepts v := rfl

@[simp] theorem accepts_string_iff : string.Accepts v ↔ ∃ s, v = .str s := by
  cases v <;> simp [Accepts, string, throw, throwThe, MonadExceptOf.throw, pure, Except.pure]

@[simp] theorem accepts_bool_iff : bool.Accepts v ↔ ∃ b, v = .bool b := by
  cases v <;> simp [Accepts, bool, throw, throwThe, MonadExceptOf.throw, pure, Except.pure]

@[simp] theorem accepts_optional_iff : (optional l).Accepts v ↔ v = .null ∨ l.Accepts v := by
  cases v <;> simp [Accepts, optional, pure, Except.pure]

@[simp] theorem accepts_list_iff :
    (list l).Accepts v ↔ ∃ xs, v = .arr xs ∧ ∀ x ∈ xs, l.Accepts x := by
  cases v <;> simp [Accepts, list, forM_eq_ok_iff, throw, throwThe, MonadExceptOf.throw]

@[simp] theorem accepts_table_iff :
    (table l).Accepts v ↔ ∃ ms, v = .obj ms ∧ ∀ m ∈ ms, l.Accepts m.2 := by
  cases v <;> simp [Accepts, table, forM_eq_ok_iff, throw, throwThe, MonadExceptOf.throw]

/-- A name that belongs to the choice is accepted. -/
theorem accepts_choice_of_mem {names : List String} {s : String} (h : s ∈ names) :
    (choice names).Accepts (.str s) := by
  simp [Accepts, choice, h, pure, Except.pure]

/-! ### Records -/

theorem forM_check_eq_ok_iff :
    (forM ms fun m => match fields.find? (·.name == m.1) with
        | some f => f.layout.check m.2
        | none => pure ()) = Except.ok () ↔
      ∀ m ∈ ms, ∀ f, fields.find? (·.name == m.1) = some f → f.layout.Accepts m.2 := by
  rw [forM_eq_ok_iff]
  refine forall₂_congr fun m _ => ?_
  cases fields.find? (·.name == m.1) <;> simp [Accepts, pure, Except.pure]

theorem checkMembers_eq_ok_iff :
    checkMembers fields ms = .ok () ↔ AcceptsMembers fields ms := by
  rw [checkMembers, AcceptsMembers, ← forM_check_eq_ok_iff]
  simp only [List.forM_eq_forM, bind_eq_ok_iff]
  constructor
  · rintro ⟨⟨⟩, hms, hmissing⟩
    refine ⟨hms, ?_⟩
    cases h : missing? fields ms with
    | none => rfl
    | some name => simp [h, throw, throwThe, MonadExceptOf.throw] at hmissing
  · rintro ⟨hms, hmissing⟩
    exact ⟨(), hms, by rw [hmissing]; rfl⟩

@[simp] theorem accepts_openRecord_iff {name : String} :
    (openRecord name fields).Accepts v ↔ ∃ ms, v = .obj ms ∧ AcceptsMembers fields ms := by
  cases v with
  | obj ms => simp [← checkMembers_eq_ok_iff, Accepts, openRecord]
  | _ => simp [Accepts, openRecord, throw, throwThe, MonadExceptOf.throw]

/-- Decoding a record makes a value of the members, if they are those of one. -/
theorem map_decode_openRecord_eq_ok_iff {α : Type} {name : String} {ofMembers : Members → α}
    {a : α} : ((openRecord name fields).decode v).map (fun v => ofMembers v.members) = .ok a ↔
      ∃ ms, v = .obj ms ∧ AcceptsMembers fields ms ∧ a = ofMembers ms := by
  constructor
  · intro h
    cases hdecode : (openRecord name fields).decode v with
    | error d => rw [hdecode] at h; cases h
    | ok w =>
      rw [hdecode] at h
      obtain ⟨haccepts, rfl⟩ := decode_eq_ok_iff.mp hdecode
      obtain ⟨ms, rfl, hms⟩ := accepts_openRecord_iff.mp haccepts
      exact ⟨ms, rfl, hms, (Except.ok.inj h).symm⟩
  · rintro ⟨ms, rfl, hms, rfl⟩
    exact Accepts.map_decode (accepts_openRecord_iff.mpr ⟨ms, rfl, hms⟩)

/-- No required member is missing when each of them is there. -/
theorem missing?_eq_none_iff : missing? fields ms = none ↔
    ∀ f ∈ fields, f.isRequired = true → ms.value? f.name ≠ none := by
  simp [missing?, Option.map_eq_none_iff, List.find?_eq_none]

/-- The member of a field has its layout; it is there if it must be. -/
structure Field.Holds (f : Field) (ms : Members) : Prop where
  accepts : ∀ v, ms.value? f.name = some v → f.layout.Accepts v
  present : f.isRequired = true → ms.value? f.name ≠ none

/-- A field whose member may be missing. -/
theorem Field.Holds.of_accepts {f : Field} (hf : f.isRequired = false)
    (h : ∀ v, ms.value? f.name = some v → f.layout.Accepts v) : f.Holds ms :=
  ⟨h, fun hr => absurd (hf.symm.trans hr) Bool.false_ne_true⟩

theorem find?_of_mem {f : Field} (hfields : (fields.map (·.name)).Nodup) (hf : f ∈ fields) :
    fields.find? (·.name == f.name) = some f := by
  induction fields with
  | nil => simp at hf
  | cons g fields ih =>
    obtain ⟨hg, hrest⟩ := List.nodup_cons.mp hfields
    rcases List.mem_cons.mp hf with rfl | hmem
    · simp
    · have hne : g.name ≠ f.name := fun heq => hg (List.mem_map.mpr ⟨f, hmem, heq.symm⟩)
      rw [List.find?_cons_of_neg (by simpa using hne), ih hrest hmem]

/-- In an accepted object every field holds. -/
theorem AcceptsMembers.holds {f : Field} (h : AcceptsMembers fields ms)
    (hfields : (fields.map (·.name)).Nodup) (hf : f ∈ fields) : f.Holds ms where
  accepts := fun _ hv =>
    h.1 _ (Members.mem_of_value?_eq_some hv) f (find?_of_mem hfields hf)
  present := missing?_eq_none_iff.mp h.2 f hf

/-- In an accepted object the items of an array have the layout of its field. -/
theorem AcceptsMembers.items {xs : List Json} (h : AcceptsMembers fields ms)
    (hfields : (fields.map (·.name)).Nodup) (hf : .defaulted key (.optional (.list l)) ∈ fields)
    (hxs : ms.array? key = some xs) : ∀ x ∈ xs, l.Accepts x := by
  have haccepts := (h.holds hfields hf).accepts _ (Members.array?_eq_some_iff.mp hxs)
  obtain ⟨ys, heq, hys⟩ := accepts_list_iff.mp
    ((accepts_optional_iff.mp haccepts).resolve_left (by simp))
  obtain rfl := Json.arr.inj heq
  exact hys

/-- The members of a record, field by field, where no key occurs twice. -/
theorem acceptsMembers_iff (hfields : (fields.map (·.name)).Nodup) (hms : ms.keys.Nodup) :
    AcceptsMembers fields ms ↔ ∀ f ∈ fields, f.Holds ms := by
  refine ⟨fun h f hf => h.holds hfields hf, fun h => ⟨?_, ?_⟩⟩
  · intro m hm f hfind
    have hname : f.name = m.1 := by simpa using List.find?_some hfind
    have hv : ms.value? f.name = some m.2 := by
      rw [hname]
      exact Members.value?_of_mem hms hm
    exact (h f (List.mem_of_find?_eq_some hfind)).accepts _ hv
  · exact missing?_eq_none_iff.mpr fun f hf => (h f hf).present

/-- A record stays one when a member gets a value that its field allows. -/
theorem AcceptsMembers.set (h : AcceptsMembers fields ms)
    (hv : ∀ f, fields.find? (·.name == key) = some f → f.layout.Accepts v) :
    AcceptsMembers fields (ms.set key v) := by
  constructor
  · intro m hm f hf
    rcases Members.mem_of_mem_set hm with hmem | rfl
    · exact h.1 m hmem f hf
    · exact hv f hf
  · refine missing?_eq_none_iff.mpr fun f hf hreq => ?_
    rw [Members.value?_set]
    split
    · exact Option.some_ne_none v
    · exact missing?_eq_none_iff.mp h.2 f hf hreq

/-- A record stays one when a member is removed that need not be there. -/
theorem AcceptsMembers.remove (h : AcceptsMembers fields ms) (hms : ms.keys.Nodup)
    (hkey : ∀ f ∈ fields, f.isRequired = true → f.name ≠ key) :
    AcceptsMembers fields (ms.remove key) := by
  constructor
  · exact fun m hm => h.1 m (Members.mem_of_mem_remove hms hm)
  · refine missing?_eq_none_iff.mpr fun f hf hreq => ?_
    rw [Members.value?_remove hms, if_neg (Ne.symm (hkey f hf hreq))]
    exact missing?_eq_none_iff.mp h.2 f hf hreq

/-- The member is one of the fields and has its layout. -/
def Fits (fields : List Field) (m : String × Json) : Prop :=
  ∃ f ∈ fields, f.name = m.1 ∧ f.layout.Accepts m.2

theorem Fits.mem_names {m : String × Json} (h : Fits fields m) : m.1 ∈ fields.map (·.name) := by
  obtain ⟨f, hf, hname, -⟩ := h
  exact List.mem_map.mpr ⟨f, hf, hname⟩

/-- Members that fit the fields, with all that must be there among them, make a record, whatever
members beside the fields follow. -/
theorem acceptsMembers_append {known extra : Members} (hfields : (fields.map (·.name)).Nodup)
    (hknown : ∀ m ∈ known, Fits fields m) (hextra : ∀ m ∈ extra, m.1 ∉ fields.map (·.name))
    (hpresent : ∀ f ∈ fields, f.isRequired = true → known.value? f.name ≠ none) :
    AcceptsMembers fields (known ++ extra) := by
  constructor
  · intro m hm f hfind
    have hname : f.name = m.1 := by simpa using List.find?_some hfind
    rcases List.mem_append.mp hm with hm | hm
    -- a known member fits some field, and names tell fields apart
    · obtain ⟨g, hg, hgname, haccepts⟩ := hknown m hm
      have hfind' := find?_of_mem hfields hg
      rw [hgname, hfind] at hfind'
      rwa [Option.some.inj hfind']
    · have hf : f ∈ fields := List.mem_of_find?_eq_some hfind
      exact absurd (List.mem_map.mpr ⟨f, hf, hname⟩) (hextra m hm)
  · refine missing?_eq_none_iff.mpr fun f hf hreq => ?_
    have hv := hpresent f hf hreq
    rw [Members.value?_append]
    cases h : Members.value? known f.name with
    | none => exact absurd h hv
    | some v => simp

end Json.Layout

end Catalog
