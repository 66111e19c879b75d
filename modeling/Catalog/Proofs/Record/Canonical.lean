import Catalog.Migration.Run
import Catalog.Proofs.Canonical.Unchanged

/-!
# Canonical records

What a migration does to one record: it refuses a record with malformed packages, and to any other
record it writes the packages that make its document canonical, if they differ.

## Main definitions

* `Record.canonicalize` — the record with a canonical document.
* `Record.IsMalformed` — the packages of a record are no array.
* `Record.replacement?` — the packages to write.
* `Record.Changes` — the packages of a record are not canonical.

## Main results

* `Record.planRecord_of_not_isMalformed`, `Record.planRecord_of_isMalformed` — the plan.
* `Record.canonicalize_of_replacement?` — **writing the replacement makes the record canonical.**
-/

namespace Catalog

open Json (Members)
open Json.Members

namespace Record

variable {r : Record} {v : Json} {ms : Members}

/-- The record with a canonical document. -/
def canonicalize (r : Record) : Record := ⟨r.id, canonicalizeDocument r.document⟩

@[simp] theorem canonicalize_id (r : Record) : r.canonicalize.id = r.id := rfl

@[simp] theorem canonicalize_document (r : Record) :
    r.canonicalize.document = canonicalizeDocument r.document := rfl

/-! ### The packages of a record -/

theorem packages?_eq_some_iff :
    r.packages? = some v ↔ r.document.get? "packages" = some v ∧ v ≠ .null :=
  given?_eq_some_iff

/-- Only an object has packages. -/
theorem exists_obj_of_packages? (h : r.packages? = some v) :
    ∃ ms : Members, r.document = .obj ms ∧ ms.value? "packages" = some v := by
  obtain ⟨hget, -⟩ := packages?_eq_some_iff.mp h
  rw [Json.get?] at hget
  cases hdoc : r.document with
  | obj ms => exact ⟨ms, rfl, by rwa [hdoc] at hget⟩
  | _ => simp [hdoc, Json.members] at hget

/-- The canonical form of a document with packages. -/
theorem canonicalizeDocument_of_packages? (h : r.packages? = some v) :
    canonicalizeDocument r.document =
      .obj (r.document.members.set "packages" (canonicalizePackages v)) := by
  rw [canonicalizeDocument, (packages?_eq_some_iff.mp h).1]

/-- A document stays as it is when its packages do. -/
theorem canonicalizeDocument_eq_self
    (h : ∀ v, r.packages? = some v → canonicalizePackages v = v) :
    canonicalizeDocument r.document = r.document := by
  rw [canonicalizeDocument]
  cases hget : r.document.get? "packages" with
  | none => rfl
  | some v =>
    have hv : canonicalizePackages v = v := by
      by_cases hnull : v = .null
      · rw [hnull]
        rfl
      · exact h v (packages?_eq_some_iff.mpr ⟨hget, hnull⟩)
    cases hdoc : r.document with
    | obj ms =>
      rw [hdoc] at hget
      exact congrArg Json.obj (by rw [hv]; exact set_of_value?_eq_some hget)
    | _ => simp [hdoc, Json.get?, Json.members] at hget

theorem canonicalizePackages_ne_null (h : v ≠ .null) : canonicalizePackages v ≠ .null := by
  cases v <;> simp_all [canonicalizePackages]

/-- The packages of a canonical record. -/
theorem packages?_canonicalize (h : r.packages? = some v) :
    r.canonicalize.packages? = some (canonicalizePackages v) := by
  refine packages?_eq_some_iff.mpr
    ⟨?_, canonicalizePackages_ne_null (packages?_eq_some_iff.mp h).2⟩
  rw [canonicalize_document, canonicalizeDocument_of_packages? h, Json.get?, Json.members,
    value?_set, if_pos rfl]

/-- Canonicalization of a record keeps whether it has packages. -/
@[simp] theorem isSome_packages?_canonicalize :
    r.canonicalize.packages?.isSome = r.packages?.isSome := by
  cases h : r.packages? with
  | none =>
    have hself : r.canonicalize = r := by
      rw [canonicalize, canonicalizeDocument_eq_self (by simp [h])]
    rw [hself, h]
  | some v =>
    rw [packages?_canonicalize h]
    rfl

/-- The packages of a well-formed document are well-formed. -/
theorem wellFormed_of_packages? (hwf : r.document.WellFormed) (h : r.packages? = some v) :
    v.WellFormed := by
  obtain ⟨ms, hdoc, hvalue⟩ := exists_obj_of_packages? h
  rw [hdoc] at hwf
  exact hwf.of_value? hvalue

/-! ### The plan for a record -/

/-- The packages of the record are there, but no array. -/
def IsMalformed (r : Record) : Prop := ∃ v, r.packages? = some v ∧ ∀ xs, v ≠ .arr xs

/-- The packages to write for a record: the canonical ones, unless they are the stored ones. -/
def replacement? (r : Record) : Option Json :=
  match r.packages? with
  | some (.arr xs) =>
    if (canonicalizePackages (.arr xs)).same (.arr xs) then none
    else some (canonicalizePackages (.arr xs))
  | _ => none

theorem packages?_of_not_isMalformed (h : ¬ r.IsMalformed) (hv : r.packages? = some v) :
    ∃ xs, v = .arr xs := by
  by_contra hnone
  rw [not_exists] at hnone
  exact h ⟨v, hv, hnone⟩

theorem isMalformed_iff : r.IsMalformed ↔
    ∃ v, r.packages? = some v ∧ planRecord r = .error (.malformedRecord r.id) := by
  constructor
  · rintro ⟨v, hv, hno⟩
    refine ⟨v, hv, ?_⟩
    rw [planRecord, hv]
    cases v with
    | arr xs => exact absurd rfl (hno xs)
    | _ => rfl
  · rintro ⟨v, hv, hplan⟩
    refine ⟨v, hv, ?_⟩
    rintro xs rfl
    rw [planRecord, hv] at hplan
    cases xs <;> cases hplan

/-- For a malformed record there is no plan. -/
theorem planRecord_of_isMalformed (h : r.IsMalformed) :
    planRecord r = .error (.malformedRecord r.id) := by
  obtain ⟨v, -, hplan⟩ := isMalformed_iff.mp h
  exact hplan

/-- The plan for any other record is its replacement. -/
theorem planRecord_of_not_isMalformed (h : ¬ r.IsMalformed) :
    planRecord r = .ok r.replacement? := by
  rw [planRecord, replacement?]
  cases hv : r.packages? with
  | none => rfl
  | some v =>
    obtain ⟨xs, rfl⟩ := packages?_of_not_isMalformed h hv
    cases xs with
    | nil => rfl
    | cons x xs => rfl

instance : Decidable r.IsMalformed :=
  match h : r.packages? with
  | none => isFalse fun ⟨_, hv, _⟩ => by cases h.symm.trans hv
  | some (.arr xs) => isFalse fun ⟨v, hv, hno⟩ => hno xs (Option.some.inj (hv.symm.trans h))
  | some .null => isTrue ⟨_, h, nofun⟩
  | some (.bool _) => isTrue ⟨_, h, nofun⟩
  | some (.num _) => isTrue ⟨_, h, nofun⟩
  | some (.str _) => isTrue ⟨_, h, nofun⟩
  | some (.obj _) => isTrue ⟨_, h, nofun⟩

/-- There is a replacement for packages that are an array only. -/
theorem exists_arr_of_replacement? (h : r.replacement? = some v) :
    ∃ xs, r.packages? = some (.arr xs) := by
  rw [replacement?] at h
  split at h
  · next xs hxs => exact ⟨xs, hxs⟩
  · cases h

theorem not_isMalformed_of_replacement? (h : r.replacement? = some v) : ¬ r.IsMalformed := by
  obtain ⟨xs, hxs⟩ := exists_arr_of_replacement? h
  rintro ⟨w, hw, hno⟩
  exact hno xs (Option.some.inj (hw.symm.trans hxs))

theorem replacement?_eq_some_iff (hwf : r.document.WellFormed) : r.replacement? = some v ↔
    ∃ xs, r.packages? = some (.arr xs) ∧ canonicalizePackages (.arr xs) = v ∧ v ≠ .arr xs := by
  rw [replacement?]
  split
  · next xs hxs =>
    have hitems : (Json.arr xs).WellFormed := wellFormed_of_packages? hwf hxs
    -- the stored packages are well-formed, so being the same means being equal
    have hsame := canonicalizePackages_same_iff hitems
    by_cases hfixed : canonicalizePackages (.arr xs) = .arr xs
    · rw [if_pos (hsame.mpr hfixed)]
      refine iff_of_false (fun h => by cases h) ?_
      rintro ⟨ys, hys, rfl, hne⟩
      obtain rfl := Json.arr.inj (Option.some.inj (hxs.symm.trans hys))
      exact hne hfixed
    · rw [if_neg (mt hsame.mp hfixed)]
      constructor
      · rintro ⟨⟩
        exact ⟨xs, hxs, rfl, hfixed⟩
      · rintro ⟨ys, hys, rfl, -⟩
        rw [Json.arr.inj (Option.some.inj (hxs.symm.trans hys))]
  · next hno =>
    refine iff_of_false (fun h => by cases h) ?_
    rintro ⟨xs, hxs, -⟩
    exact hno xs hxs

/-- The packages of the record are not canonical. -/
def Changes (r : Record) : Prop := ∃ v, r.packages? = some v ∧ canonicalizePackages v ≠ v

instance : Decidable r.Changes :=
  decidable_of_iff (r.packages?.any fun v => canonicalizePackages v ≠ v) <| by
    rw [Changes]
    cases r.packages? <;> simp

/-- A record has a replacement just when its packages are not canonical. -/
theorem exists_replacement?_iff (hwf : r.document.WellFormed) :
    (∃ v, r.replacement? = some v) ↔ r.Changes := by
  simp only [replacement?_eq_some_iff hwf, Changes]
  constructor
  · rintro ⟨v, xs, hxs, rfl, hne⟩
    exact ⟨_, hxs, hne⟩
  · rintro ⟨v, hv, hne⟩
    cases v with
    | arr xs => exact ⟨_, xs, hv, rfl, hne⟩
    | _ => exact absurd rfl hne

/-- What is stored after the run: the replacement, or what was stored before. -/
theorem getD_replacement? (hwf : r.document.WellFormed) (h : r.packages? = some v) :
    r.replacement?.getD v = canonicalizePackages v := by
  cases hreplacement : r.replacement? with
  | some w =>
    obtain ⟨xs, hxs, hw, -⟩ := (replacement?_eq_some_iff hwf).mp hreplacement
    obtain rfl := Option.some.inj (h.symm.trans hxs)
    rw [Option.getD_some, hw]
  | none =>
    by_contra hne
    have hchanges : r.Changes := ⟨v, h, Ne.symm hne⟩
    obtain ⟨w, hw⟩ := (exists_replacement?_iff hwf).mpr hchanges
    rw [hreplacement] at hw
    cases hw

/-- A record without a replacement is canonical already, unless it is malformed; the packages of a
malformed one are kept as they are. -/
theorem canonicalizeDocument_of_replacement?_eq_none (hwf : r.document.WellFormed)
    (h : r.replacement? = none) : canonicalizeDocument r.document = r.document := by
  refine canonicalizeDocument_eq_self fun v hv => ?_
  cases v with
  | arr xs =>
    by_contra hne
    have hsome := (replacement?_eq_some_iff hwf).mpr ⟨xs, hv, rfl, hne⟩
    rw [h] at hsome
    cases hsome
  | _ => rfl

/-- **Writing the replacement makes the record canonical.** -/
theorem canonicalize_of_replacement? (h : r.replacement? = some v) :
    ∃ ms : Members, r.document = .obj ms ∧
      canonicalizeDocument r.document = .obj (ms.set "packages" v) := by
  rw [replacement?] at h
  split at h
  · next xs hxs =>
    split at h
    · cases h
    · obtain rfl := Option.some.inj h
      obtain ⟨ms, hdoc, -⟩ := exists_obj_of_packages? hxs
      exact ⟨ms, hdoc, by rw [canonicalizeDocument_of_packages? hxs, hdoc, Json.members]⟩
  · cases h

end Record

end Catalog
