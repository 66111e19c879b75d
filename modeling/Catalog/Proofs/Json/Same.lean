import Catalog.Proofs.Json.WellFormed
import Mathlib.Data.List.Forall2
import Mathlib.Data.List.Perm.Subperm

/-!
# Documents that are equal as values

Two documents are equal as values when they are of one kind and have equal parts: arrays position by
position, objects name by name in whatever order the members come. An integer never equals a
double, and the two zeros are equal. On well-formed documents `Json.same` decides this relation.

## Main definitions

* `Json.Equal` — two documents are equal as values.

## Main results

* `same_iff` — **`Json.same` decides equality of values.**
* `WellFormed.equal_self`, `WellFormed.equal_symm` — equality is reflexive and symmetric.
* `forall₂_equal_iff` — two arrays are equal when they are at every index.
-/

namespace Catalog.Json

open Members

variable {v w : Json} {xs ys : List Json} {ms ms' : Members} {key : String}

/-! ### Optional values -/

section

variable {α : Type} {R : α → α → Prop} {a : α} {o : Option α}

@[simp] theorem rel_none_left_iff : Option.Rel R none o ↔ o = none := by
  constructor
  · rintro ⟨⟩
    rfl
  · rintro rfl
    exact .none

@[simp] theorem rel_some_left_iff : Option.Rel R (some a) o ↔ ∃ b, o = some b ∧ R a b := by
  constructor
  · rintro (h | -)
    exact ⟨_, rfl, h⟩
  · rintro ⟨b, rfl, h⟩
    exact .some h

@[simp] theorem rel_none_right_iff : Option.Rel R o none ↔ o = none := by
  cases o <;> simp

end

/-! ### Objects that are the same -/

theorem same_obj_iff : (obj ms).same (obj ms') = true ↔
    ms.length = ms'.length ∧
      ∀ m ∈ ms, ∃ w, ms'.value? m.1 = some w ∧ m.2.same w = true := by
  rw [same, Bool.and_eq_true, beq_iff_eq, sameMembers_iff]

/-- A text is the same as itself only. -/
theorem same_str_iff {s : String} {w : Json} : (str s).same w = true ↔ w = .str s := by
  cases w with
  | str t =>
    rw [same, beq_iff_eq, str.injEq]
    exact eq_comm
  | _ => simp [same]

/-- An object is the same as objects only. -/
theorem exists_obj_of_same {w : Json} (h : (obj ms).same w = true) : ∃ ns, w = .obj ns := by
  cases w with
  | obj ns => exact ⟨ns, rfl⟩
  | _ => simp [same] at h

theorem value?_of_same (h : (obj ms).same (obj ms') = true) (hv : ms.value? key = some v) :
    ∃ w, ms'.value? key = some w ∧ v.same w = true :=
  (same_obj_iff.mp h).2 _ (mem_of_value?_eq_some hv)

/-- Two objects that are the same lack the same members. -/
theorem value?_eq_none_iff_of_same (hms : ms.keys.Nodup)
    (h : (obj ms).same (obj ms') = true) (key : String) :
    ms'.value? key = none ↔ ms.value? key = none := by
  rw [value?_eq_none_iff, value?_eq_none_iff]
  have hsubset : ms.keys ⊆ ms'.keys := by
    intro k hk
    obtain ⟨m, hm, rfl⟩ := List.mem_map.mp hk
    obtain ⟨w, hw, -⟩ := (same_obj_iff.mp h).2 m hm
    exact List.mem_map.mpr ⟨_, mem_of_value?_eq_some hw, rfl⟩
  -- as many keys as there are on the other side, all different
  have hlength : ms'.keys.length ≤ ms.keys.length := by simp [keys, (same_obj_iff.mp h).1]
  have hperm := (List.subperm_of_subset hms hsubset).perm_of_length_le hlength
  exact not_congr hperm.mem_iff.symm

/-! ### Equality of values -/

/-- Two documents are equal as values. -/
inductive Equal : Json → Json → Prop
  | null : Equal null null
  | bool (b : Bool) : Equal (bool b) (bool b)
  | int (n : Int) : Equal (num (.int n)) (num (.int n))
  | float {x y : Binary64} (h : x.same y = true) : Equal (num (.float x)) (num (.float y))
  | str (s : String) : Equal (str s) (str s)
  | arr {xs ys : List Json} (items : List.Forall₂ Equal xs ys) : Equal (arr xs) (arr ys)
  | obj {ms ms' : Members}
    (values : ∀ key, Option.Rel Equal (value? ms key) (value? ms' key)) :
    Equal (obj ms) (obj ms')

@[simp] theorem equal_arr_iff : (arr xs).Equal (arr ys) ↔ List.Forall₂ Equal xs ys := by
  refine ⟨fun h => ?_, .arr⟩
  cases h with
  | arr items => exact items

theorem equal_obj_iff : (obj ms).Equal (obj ms') ↔
    ∀ key, Option.Rel Equal (ms.value? key) (ms'.value? key) := by
  refine ⟨fun h => ?_, .obj⟩
  cases h with
  | obj values => exact values

theorem equal_num_iff {n n' : Number} : (num n).Equal (num n') ↔ n.same n' = true := by
  constructor
  · intro h
    cases h with
    | int n => exact Number.same_self _
    | float h => exact h
  · intro h
    cases n with
    | int a =>
      cases n' with
      | int b =>
        obtain rfl : a = b := by simpa [Number.same] using h
        exact .int a
      | float y => simp [Number.same] at h
    | float x =>
      cases n' with
      | int b => simp [Number.same] at h
      | float y => exact .float h

/-- Objects that are equal have as many members. -/
theorem length_eq_of_values (hms : ms.keys.Nodup) (hms' : ms'.keys.Nodup)
    (h : ∀ key, Option.Rel Equal (ms.value? key) (ms'.value? key)) :
    ms.length = ms'.length := by
  have hkeys : ∀ key, key ∈ ms.keys ↔ key ∈ ms'.keys := by
    intro key
    rw [← not_iff_not, ← value?_eq_none_iff, ← value?_eq_none_iff]
    have hkey := h key
    constructor
    · intro hnone
      rwa [hnone, rel_none_left_iff] at hkey
    · intro hnone
      rwa [hnone, rel_none_right_iff] at hkey
  have hlength := ((List.perm_ext_iff_of_nodup hms hms').mpr hkeys).length_eq
  rwa [keys, keys, List.length_map, List.length_map] at hlength

/-- **`Json.same` decides equality of values.** -/
theorem same_iff (hv : v.WellFormed) (hw : w.WellFormed) : v.same w = true ↔ v.Equal w := by
  induction hv generalizing w with
  | null =>
    cases w with
    | null => exact iff_of_true rfl .null
    | _ => exact iff_of_false (by simp [same]) fun h => by cases h
  | bool b =>
    cases w with
    | bool c =>
      rw [same, beq_iff_eq]
      refine ⟨fun h => h ▸ .bool b, fun h => ?_⟩
      cases h
      rfl
    | _ => exact iff_of_false (by simp [same]) fun h => by cases h
  | num n =>
    cases w with
    | num n' => rw [same, equal_num_iff]
    | _ => exact iff_of_false (by simp [same]) fun h => by cases h
  | str s =>
    rw [same_str_iff]
    constructor
    · rintro rfl
      exact .str s
    · rintro ⟨⟩
      rfl
  | @arr xs items ih =>
    cases w with
    | arr ys =>
      have hys := wellFormed_arr_iff.mp hw
      rw [same, sameItems_iff, equal_arr_iff, List.forall₂_iff_get, List.forall₂_iff_get]
      refine and_congr_right fun _ => forall_congr' fun i => forall_congr' fun hi =>
        forall_congr' fun hi' => ?_
      exact ih _ (List.get_mem xs _) (hys _ (List.get_mem ys _))
    | _ => exact iff_of_false (by simp [same]) fun h => by cases h
  | @obj ms keys values ih =>
    cases w with
    | obj ms' =>
      obtain ⟨hkeys, hvalues⟩ := wellFormed_obj_iff.mp hw
      have hmember : ∀ {m w}, m ∈ ms → value? ms' m.1 = some w →
          (m.2.same w = true ↔ m.2.Equal w) := fun hm hw =>
        ih _ hm (hvalues _ (mem_of_value?_eq_some hw))
      rw [equal_obj_iff]
      constructor
      · intro h key
        cases hv : value? ms key with
        | none => exact rel_none_left_iff.mpr ((value?_eq_none_iff_of_same keys h key).mpr hv)
        | some v =>
          obtain ⟨w, hw, hsame⟩ := value?_of_same h hv
          have hequal := (hmember (mem_of_value?_eq_some hv) hw).mp hsame
          exact rel_some_left_iff.mpr ⟨w, hw, hequal⟩
      · intro h
        refine same_obj_iff.mpr ⟨length_eq_of_values keys hkeys h, fun m hm => ?_⟩
        have hrel := h m.1
        rw [value?_of_mem keys hm, rel_some_left_iff] at hrel
        obtain ⟨w, hw, hequal⟩ := hrel
        exact ⟨w, hw, (hmember hm hw).mpr hequal⟩
    | _ => exact iff_of_false (by simp [same]) fun h => by cases h

theorem WellFormed.equal_self (h : v.WellFormed) : v.Equal v :=
  (same_iff h h).mp h.same_self

theorem rel_equal_self {o : Option Json} (h : ∀ v ∈ o, v.WellFormed) : Option.Rel Equal o o := by
  cases o with
  | none => exact .none
  | some v => exact .some (h v rfl).equal_self

theorem WellFormed.equal_symm (h : v.WellFormed) (heq : v.Equal w) : w.Equal v := by
  induction h generalizing w with
  | null => cases heq; exact .null
  | bool b => cases heq; exact .bool b
  | num n =>
    cases heq with
    | int n => exact .int n
    | float h =>
      refine .float ?_
      rw [Binary64.same, Bool.or_eq_true, Bool.and_eq_true] at h ⊢
      rw [beq_iff_eq] at h ⊢
      exact h.imp Eq.symm And.symm
  | str s => cases heq; exact .str s
  | arr items ih =>
    cases heq with
    | @arr _ ys hequal =>
      have hmem := (List.forall₂_and_left _ ys).mpr ⟨fun x hx => hx, hequal⟩
      exact .arr (hmem.imp fun x y h => ih x h.1 h.2).flip
  | @obj ms keys values ih =>
    cases heq with
    | @obj _ ms' hrel =>
      refine .obj fun key => ?_
      have hkey := hrel key
      cases hv : value? ms key with
      | none =>
        rw [hv, rel_none_left_iff] at hkey
        rw [hkey]
        exact .none
      | some v =>
        rw [hv, rel_some_left_iff] at hkey
        obtain ⟨w, hw, hequal⟩ := hkey
        rw [hw]
        exact .some (ih _ (mem_of_value?_eq_some hv) hequal)

/-! ### Arrays index by index -/

/-- Two arrays are equal when they are at every index. -/
theorem forall₂_equal_iff :
    List.Forall₂ Equal xs ys ↔ ∀ i : Nat, Option.Rel Equal xs[i]? ys[i]? := by
  constructor
  · intro h
    induction h with
    | nil => exact fun i => .none
    | cons hequal _ ih =>
      rintro (_ | i)
      · exact .some hequal
      · exact ih i
  · intro h
    induction xs generalizing ys with
    | nil =>
      have hfirst := h 0
      rw [List.getElem?_nil, rel_none_left_iff, ← List.head?_eq_getElem?,
        List.head?_eq_none_iff] at hfirst
      rw [hfirst]
      exact .nil
    | cons x xs ih =>
      have hfirst := h 0
      rw [List.getElem?_cons_zero, rel_some_left_iff, ← List.head?_eq_getElem?] at hfirst
      obtain ⟨y, hy, hequal⟩ := hfirst
      obtain ⟨ys, rfl⟩ := List.head?_eq_some_iff.mp hy
      exact .cons hequal (ih fun i => h (i + 1))

end Catalog.Json
