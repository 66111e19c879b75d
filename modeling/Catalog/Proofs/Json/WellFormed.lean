import Catalog.Proofs.Json.Members

/-!
# Well-formed documents

A document is well-formed when in none of its objects a key occurs twice. Every document that was
read from text is; the equality of documents up to the order of members is reflexive on them.

## Main definitions

* `Json.WellFormed` — in no object of a document does a key occur twice.

## Main results

* `WellFormed.same_self` — a well-formed document is the same as itself.
-/

namespace Catalog.Json

/-- In no object of the document does a key occur twice. -/
inductive WellFormed : Json → Prop
  | null : WellFormed null
  | bool (b : Bool) : WellFormed (bool b)
  | num (n : Number) : WellFormed (num n)
  | str (s : String) : WellFormed (str s)
  | arr {xs : List Json} (items : ∀ x ∈ xs, WellFormed x) : WellFormed (arr xs)
  | obj {ms : Members} (keys : ms.keys.Nodup) (values : ∀ m ∈ ms, WellFormed m.2) :
    WellFormed (obj ms)

variable {v w : Json} {xs ys : List Json} {ms ms' : Members}

@[simp] theorem wellFormed_arr_iff : WellFormed (arr xs) ↔ ∀ x ∈ xs, x.WellFormed := by
  refine ⟨fun h => ?_, .arr⟩
  cases h with
  | arr items => exact items

@[simp] theorem wellFormed_obj_iff :
    WellFormed (obj ms) ↔ ms.keys.Nodup ∧ ∀ m ∈ ms, m.2.WellFormed := by
  refine ⟨fun h => ?_, fun h => .obj h.1 h.2⟩
  cases h with
  | obj keys values => exact ⟨keys, values⟩

/-- What is found in a well-formed object is well-formed. -/
theorem WellFormed.of_value? {key : String} (h : (Json.obj ms).WellFormed)
    (hv : ms.value? key = some v) : v.WellFormed :=
  (wellFormed_obj_iff.mp h).2 _ (Members.mem_of_value?_eq_some hv)

/-! ### Equality up to the order of members -/

theorem Number.same_self (n : Number) : n.same n = true := by
  cases n with
  | int a => simp [Number.same]
  | float x => simp [Number.same, Binary64.same]

theorem sameItems_iff :
    sameItems xs ys = true ↔ List.Forall₂ (fun x y => same x y = true) xs ys := by
  induction xs generalizing ys with
  | nil => cases ys <;> simp [sameItems]
  | cons x xs ih => cases ys <;> simp [sameItems, ih]

theorem sameMembers_iff : sameMembers ms ms' = true ↔
    ∀ m ∈ ms, ∃ w, ms'.value? m.1 = some w ∧ same m.2 w = true := by
  induction ms with
  | nil => simp [sameMembers]
  | cons m ms ih =>
    obtain ⟨k, v⟩ := m
    rw [sameMembers, Bool.and_eq_true, ih, List.forall_mem_cons]
    refine and_congr ?_ Iff.rfl
    cases Members.value? ms' k <;> simp

/-- A well-formed document is the same as itself. -/
theorem WellFormed.same_self (h : v.WellFormed) : v.same v = true := by
  induction h with
  | null => rfl
  | bool b => simp [same]
  | num n => exact n.same_self
  | str s => simp [same]
  | arr items ih =>
    rw [same, sameItems_iff, List.forall₂_same]
    exact ih
  | obj keys values ih =>
    rw [same, Bool.and_eq_true, sameMembers_iff]
    refine ⟨by simp, fun m hm => ⟨m.2, Members.value?_of_mem keys hm, ih m hm⟩⟩

end Catalog.Json
