import Catalog.Migration.Report
import Catalog.Proofs.Table

/-!
# Counting packages by registry type

A report counts the packages that a run found and those that are legacy before and after it, one by
one, in a table sorted by registry type. What the table holds in the end depends on the packages
alone, and not on the order in which they were counted, or on whether the counts after the run were
made while it was planned or anew.

## Main definitions

* `typeCounts` — the counts of one registry type.
* `Tallies` — a table counts the elements of two censuses, before and after a run.

## Main results

* `Tallies.foldl_countBefore`, `Tallies.foldl_countAfter` — counting more elements.
* `Tallies.resetAfter` — forgetting the counts after the run.
* `Tallies.unique` — **there is one table only that counts the elements given.**
-/

namespace Catalog

open MigrationReport (countBefore countAfter)

variable {t t' : Table TypeCounts} {before after es : List (String × Bool)} {type : String}

/-- The counts of a registry type, if it occurs. -/
def typeCounts (before after : List (String × Bool)) (type : String) : Option TypeCounts :=
  if type ∈ before.map (·.1) then
    some ⟨before.countP (·.1 = type), before.count (type, true), after.count (type, true)⟩
  else none

/-- The table counts the elements before and after a run; the run brings up no other registry
types. -/
structure Tallies (t : Table TypeCounts) (before after : List (String × Bool)) : Prop where
  sorted : t.Sorted
  get?_eq : ∀ type, t.get? type = typeCounts before after type
  types : ∀ e ∈ after, e.1 ∈ before.map (·.1)

/-- Counting an element after the run keeps the table sorted. -/
theorem sorted_countAfter (h : t.Sorted) (e : String × Bool) : (countAfter t e).Sorted := by
  rw [countAfter]
  split
  · exact h.adjust _ _
  · exact h

namespace Tallies

theorem nil : Tallies [] [] [] where
  sorted := Table.sorted_nil
  get?_eq := fun _ => rfl
  types := by simp

/-- **There is one table only that counts the elements given.** -/
theorem unique (h : Tallies t before after) (h' : Tallies t' before after) : t = t' :=
  h.sorted.ext h'.sorted fun type => by rw [h.get?_eq, h'.get?_eq]

/-- What a table counts for a registry type, also for one that does not occur. -/
theorem getD_get? (h : Tallies t before after) (type : String) :
    (t.get? type).getD default =
      ⟨before.countP (·.1 = type), before.count (type, true), after.count (type, true)⟩ := by
  rw [h.get?_eq, typeCounts]
  split
  · rfl
  · next hnew =>
    have hbefore : ∀ e ∈ before, e.1 ≠ type := by
      intro e he heq
      exact hnew (List.mem_map.mpr ⟨e, he, heq⟩)
    have hpackages : before.countP (·.1 = type) = 0 := by
      rw [List.countP_eq_zero]
      intro e he
      simpa using hbefore e he
    have hlegacy : before.count (type, true) = 0 :=
      List.count_eq_zero.mpr fun hmem => hbefore _ hmem rfl
    have hafter : after.count (type, true) = 0 :=
      List.count_eq_zero.mpr fun hmem => hnew (h.types _ hmem)
    rw [hpackages, hlegacy, hafter]
    rfl

/-- One more element before the run. -/
theorem countBefore (h : Tallies t before after) (e : String × Bool) :
    Tallies (countBefore t e) (before ++ [e]) after where
  sorted := h.sorted.adjust _ _
  get?_eq := by
    intro type
    obtain ⟨own, legacy⟩ := e
    rw [MigrationReport.countBefore, Table.get?_adjust, h.getD_get?, typeCounts]
    by_cases hown : own = type
    · subst hown
      cases legacy <;> simp
    · rw [if_neg hown, h.get?_eq, typeCounts]
      simp [hown, Ne.symm hown]
  types := by
    intro f hf
    rw [List.map_append]
    exact List.mem_append_left _ (h.types f hf)

/-- One more element after the run, of a registry type that occurs. -/
theorem countAfter (h : Tallies t before after) {e : String × Bool}
    (he : e.1 ∈ before.map (·.1)) : Tallies (countAfter t e) before (after ++ [e]) where
  sorted := sorted_countAfter h.sorted e
  get?_eq := by
    intro type
    obtain ⟨own, legacy⟩ := e
    cases legacy with
    | false =>
      rw [MigrationReport.countAfter, if_neg Bool.false_ne_true, h.get?_eq]
      simp [typeCounts]
    | true =>
      rw [MigrationReport.countAfter, if_pos rfl, Table.get?_adjust, h.getD_get?, typeCounts]
      by_cases hown : own = type
      · subst hown
        rw [if_pos rfl, if_pos he]
        simp
      · rw [if_neg hown, h.get?_eq, typeCounts]
        simp [hown]
  types := by
    intro f hf
    rcases List.mem_append.mp hf with hf | hf
    · exact h.types f hf
    · rwa [List.mem_singleton.mp hf]

/-- More elements before the run. -/
theorem foldl_countBefore (h : Tallies t before after) (es : List (String × Bool)) :
    Tallies (es.foldl MigrationReport.countBefore t) (before ++ es) after := by
  induction es generalizing t before with
  | nil => simpa using h
  | cons e es ih =>
    rw [List.foldl_cons, List.append_cons]
    exact ih (h.countBefore e)

/-- More elements after the run. -/
theorem foldl_countAfter (h : Tallies t before after) (hes : ∀ e ∈ es, e.1 ∈ before.map (·.1)) :
    Tallies (es.foldl MigrationReport.countAfter t) before (after ++ es) := by
  induction es generalizing t after with
  | nil => simpa using h
  | cons e es ih =>
    obtain ⟨he, hes⟩ := List.forall_mem_cons.mp hes
    rw [List.foldl_cons, List.append_cons]
    exact ih (h.countAfter he) hes

/-- Without the counts after the run, the table counts the elements before. -/
theorem resetAfter (h : Tallies t before after) :
    Tallies (t.map fun e => (e.1, { e.2 with legacyAfter := 0 })) before [] where
  sorted := h.sorted.map fun _ c => { c with legacyAfter := 0 }
  get?_eq := by
    intro type
    refine (Table.get?_map t (fun _ c => { c with legacyAfter := 0 }) type).trans ?_
    rw [h.get?_eq, typeCounts, typeCounts]
    split <;> rfl
  types := by simp

end Tallies

end Catalog
