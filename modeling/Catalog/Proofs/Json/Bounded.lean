import Catalog.Proofs.Json.WellFormed

/-!
# Bounded documents

A document is bounded when its keys are distinct, its containers do not nest deeper than a bound and
its numbers have a property. What a reader yields is bounded, and so is what can be written and read
again.

## Main definitions

* `Json.Bounded` — keys, depth and numbers of a document.
* `Json.numbers` — the numbers in a document.

## Main results

* `Bounded.imp` — a property that the numbers of the document have besides.
* `Bounded.wellFormed`, `WellFormed.bounded` — the well-formed documents are the bounded ones.
-/

namespace Catalog.Json

/-- In no object of the document does a key occur twice, at most `depth` of its containers are
nested, and all its numbers have the property. -/
inductive Bounded (p : Number → Prop) : (depth : Nat) → Json → Prop
  | null {depth : Nat} : Bounded p depth null
  | bool {depth : Nat} (b : Bool) : Bounded p depth (bool b)
  | num {depth : Nat} {n : Number} (number : p n) : Bounded p depth (num n)
  | str {depth : Nat} (s : String) : Bounded p depth (str s)
  | arr {depth : Nat} {xs : List Json} (items : ∀ x ∈ xs, Bounded p depth x) :
    Bounded p (depth + 1) (arr xs)
  | obj {depth : Nat} {ms : Members} (keys : ms.keys.Nodup)
    (values : ∀ m ∈ ms, Bounded p depth m.2) : Bounded p (depth + 1) (obj ms)

mutual

/-- The numbers in the document. -/
def numbers : Json → List Number
  | num n => [n]
  | arr xs => numbersOfItems xs
  | obj ms => numbersOfMembers ms
  | _ => []

/-- The numbers in the items of an array. -/
def numbersOfItems : List Json → List Number
  | [] => []
  | x :: xs => numbers x ++ numbersOfItems xs

/-- The numbers in the members of an object. -/
def numbersOfMembers : List (String × Json) → List Number
  | [] => []
  | (_, v) :: ms => numbers v ++ numbersOfMembers ms

end

variable {p q : Number → Prop} {depth : Nat} {v : Json} {xs : List Json} {ms : Members} {n : Number}

theorem mem_numbersOfItems_iff : n ∈ numbersOfItems xs ↔ ∃ x ∈ xs, n ∈ x.numbers := by
  induction xs with
  | nil => simp [numbersOfItems]
  | cons x xs ih => simp [numbersOfItems, ih]

theorem mem_numbersOfMembers_iff : n ∈ numbersOfMembers ms ↔ ∃ m ∈ ms, n ∈ m.2.numbers := by
  induction ms with
  | nil => simp [numbersOfMembers]
  | cons m ms ih =>
    obtain ⟨k, v⟩ := m
    rw [numbersOfMembers, List.mem_append, ih, List.exists_mem_cons_iff]

theorem bounded_obj_nil : Bounded p (depth + 1) (obj []) :=
  .obj List.nodup_nil (List.forall_mem_nil _)

theorem bounded_arr_iff : Bounded p (depth + 1) (arr xs) ↔ ∀ x ∈ xs, Bounded p depth x := by
  refine ⟨fun h => ?_, .arr⟩
  cases h with
  | arr items => exact items

theorem bounded_obj_iff : Bounded p (depth + 1) (obj ms) ↔
    ms.keys.Nodup ∧ ∀ m ∈ ms, Bounded p depth m.2 := by
  refine ⟨fun h => ?_, fun h => .obj h.1 h.2⟩
  cases h with
  | obj keys values => exact ⟨keys, values⟩

/-- Setting a member to a bounded value. -/
theorem Bounded.set {key : String} (h : Bounded p (depth + 1) (.obj ms))
    (hv : Bounded p depth v) : Bounded p (depth + 1) (.obj (ms.set key v)) := by
  obtain ⟨hkeys, hvalues⟩ := bounded_obj_iff.mp h
  refine .obj (Members.keys_set_nodup hkeys) fun m hm => ?_
  rcases Members.mem_of_mem_set hm with hmem | rfl
  · exact hvalues m hmem
  · exact hv

/-- A property that the numbers of the document have besides. -/
theorem Bounded.imp (h : Bounded p depth v) (hpq : ∀ n ∈ v.numbers, p n → q n) :
    Bounded q depth v := by
  induction h with
  | null => exact .null
  | bool b => exact .bool b
  | num number => exact .num (hpq _ (by simp [numbers]) number)
  | str s => exact .str s
  | arr items ih =>
    refine .arr fun x hx => ih x hx fun n hn => hpq n ?_
    rw [numbers, mem_numbersOfItems_iff]
    exact ⟨x, hx, hn⟩
  | obj keys values ih =>
    refine .obj keys fun m hm => ih m hm fun n hn => hpq n ?_
    rw [numbers, mem_numbersOfMembers_iff]
    exact ⟨m, hm, hn⟩

/-- A bounded document is well-formed. -/
theorem Bounded.wellFormed (h : Bounded p depth v) : v.WellFormed := by
  induction h with
  | null => exact .null
  | bool b => exact .bool b
  | num number => exact .num _
  | str s => exact .str s
  | arr items ih => exact .arr ih
  | obj keys values ih => exact .obj keys ih

/-- A document nests at most as deep as it is large. -/
theorem WellFormed.bounded (h : v.WellFormed) (hsize : sizeOf v ≤ depth) :
    Bounded (fun _ => True) depth v := by
  induction h generalizing depth with
  | null => exact .null
  | bool b => exact .bool b
  | num n => exact .num trivial
  | str s => exact .str s
  | @arr xs _ ih =>
    rw [arr.sizeOf_spec] at hsize
    obtain ⟨depth, rfl⟩ := Nat.exists_eq_succ_of_ne_zero (show depth ≠ 0 by omega)
    refine .arr fun x hx => ih x hx ?_
    have := List.sizeOf_lt_of_mem hx
    omega
  | @obj ms keys _ ih =>
    rw [obj.sizeOf_spec] at hsize
    obtain ⟨depth, rfl⟩ := Nat.exists_eq_succ_of_ne_zero (show depth ≠ 0 by omega)
    refine .obj keys fun m hm => ih m hm ?_
    have hmember := List.sizeOf_lt_of_mem hm
    have hvalue : sizeOf m = 1 + sizeOf m.1 + sizeOf m.2 := rfl
    omega

end Catalog.Json
