import Catalog.Proofs.Migration.Tally
import Mathlib

/-!
# The packages of all registry types

The table of a report counts the packages by registry type. Together they are the elements that were
counted before the run; what is counted after the run brings up no packages.

## Main definitions

* `packageCount` — the packages of all registry types together.

## Main results

* `Table.Sorted.sum_insert`, `Table.Sorted.sum_adjust` — a sum over the values of a table.
* `Tallies.packageCount_eq` — **the packages of all types are the elements before the run.**
* `Tallies.packageCount_recount` — counting anew brings up no packages.
-/

namespace Catalog

open MigrationReport (countBefore countAfter)

/-! ### Sums over tables -/

namespace Table

variable {α : Type} {t : Table α}

/-- Putting a value at a key changes a sum over all values by that value and the one that was
there. -/
theorem Sorted.sum_insert (h : Sorted t) (k : String) (a : α) (weight : α → Nat) :
    ((t.insert k a).map fun e => weight e.2).sum + (t.get? k).elim 0 weight =
      (t.map fun e => weight e.2).sum + weight a := by
  induction t with
  | nil => simp [Table.insert]
  | cons e t ih =>
    obtain ⟨l, b⟩ := e
    obtain ⟨hlt, hsorted⟩ := sorted_cons_iff.mp h
    rw [Table.insert, get?]
    split
    · next hkl =>
      -- all keys are greater, so the key is new
      have hnone : get? t k = none := by
        rw [get?_eq_none_iff]
        intro hk
        obtain ⟨f, hf, rfl⟩ := List.mem_map.mp hk
        exact String.lt_asymm hkl (hlt f hf)
      rw [if_neg (Ne.symm (String.ne_of_lt hkl)), hnone]
      simp only [List.map_cons, List.sum_cons, Option.elim_none]
      omega
    · split
      · next heq =>
        rw [if_pos heq.symm]
        simp only [List.map_cons, List.sum_cons, Option.elim_some]
        omega
      · next hne =>
        rw [if_neg (Ne.symm hne)]
        have hrest := ih hsorted
        simp only [List.map_cons, List.sum_cons]
        omega

/-- Changing the value at a key changes a sum over all values by the two values. -/
theorem Sorted.sum_adjust [Inhabited α] (h : Sorted t) (k : String) (f : α → α) (weight : α → Nat)
    (hdefault : weight default = 0) :
    ((t.adjust k f).map fun e => weight e.2).sum + weight ((t.get? k).getD default) =
      (t.map fun e => weight e.2).sum + weight (f ((t.get? k).getD default)) := by
  rw [Table.adjust, ← h.sum_insert k (f ((t.get? k).getD default)) weight]
  cases t.get? k with
  | none => rw [Option.getD_none, Option.elim_none, hdefault]
  | some b => rfl

end Table

variable {t : Table TypeCounts} {before after : List (String × Bool)}

/-! ### Packages -/

/-- How many packages a table counts for all registry types together. -/
def packageCount (t : Table TypeCounts) : Nat := (t.map fun e => e.2.packages).sum

theorem packageCount_countBefore (h : t.Sorted) (e : String × Bool) :
    packageCount (countBefore t e) = packageCount t + 1 := by
  have hsum := h.sum_adjust e.1 (fun c =>
    { c with packages := c.packages + 1, legacyBefore := c.legacyBefore + e.2.toNat })
    TypeCounts.packages rfl
  rw [packageCount, packageCount, countBefore]
  dsimp only at hsum
  omega

/-- Counting elements after the run brings up no packages. -/
theorem packageCount_countAfter (h : t.Sorted) (e : String × Bool) :
    packageCount (countAfter t e) = packageCount t := by
  rw [packageCount, packageCount, countAfter]
  split
  · have hsum := h.sum_adjust e.1 (fun c => { c with legacyAfter := c.legacyAfter + 1 })
      TypeCounts.packages rfl
    dsimp only at hsum
    omega
  · rfl

theorem packageCount_foldl_countAfter (h : t.Sorted) (es : List (String × Bool)) :
    packageCount (es.foldl countAfter t) = packageCount t := by
  induction es generalizing t with
  | nil => rfl
  | cons e es ih =>
    rw [List.foldl_cons, ih (sorted_countAfter h e), packageCount_countAfter h]

theorem packageCount_foldl_countBefore (h : t.Sorted) (es : List (String × Bool)) :
    packageCount (es.foldl countBefore t) = packageCount t + es.length := by
  induction es generalizing t with
  | nil => rfl
  | cons e es ih =>
    have hsorted : (countBefore t e).Sorted := h.adjust _ _
    rw [List.foldl_cons, ih hsorted, packageCount_countBefore h, List.length_cons]
    omega

/-- A table counts as many packages as there are elements before the run. -/
theorem Tallies.packageCount_eq (h : Tallies t before after) : packageCount t = before.length := by
  -- the table is the one that is built by counting
  have hbefore : Tallies (before.foldl MigrationReport.countBefore []) before [] :=
    Tallies.nil.foldl_countBefore before
  have hafter := hbefore.foldl_countAfter h.types
  rw [List.nil_append] at hafter
  rw [h.unique hafter, packageCount_foldl_countAfter hbefore.sorted,
    packageCount_foldl_countBefore Table.sorted_nil]
  exact Nat.zero_add _

/-- Counting anew after the run brings up no packages. -/
theorem Tallies.packageCount_recount (h : Tallies t before after) (es : List (String × Bool)) :
    packageCount (es.foldl MigrationReport.countAfter
      (t.map fun e => (e.1, { e.2 with legacyAfter := 0 }))) = packageCount t := by
  rw [packageCount_foldl_countAfter h.resetAfter.sorted, h.resetAfter.packageCount_eq,
    h.packageCount_eq]

end Catalog
