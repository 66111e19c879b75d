/-!
# Computations that succeed

When a computation that may fail succeeds: one computation after another, and one check after
another.

## Main results

* `bind_eq_ok_iff` — both computations succeed.
* `mapError_eq_ok_iff`, `map_const_eq_ok_iff` — a computation succeeds with other errors, a check
  with a result.
* `forM_eq_ok_iff`, `mapM_eq_ok_map` — all checks succeed, and all computations.
-/

namespace Catalog

variable {ε α β : Type}

/-- Two computations one after the other succeed when the first does, and the second with its
result. -/
theorem bind_eq_ok_iff {x : Except ε α} {f : α → Except ε β} {b : β} :
    x >>= f = .ok b ↔ ∃ a, x = .ok a ∧ f a = .ok b := by
  cases x <;> simp [bind, Except.bind]

theorem ok_bind (a : α) (f : α → Except ε β) : (Except.ok a : Except ε α) >>= f = f a := rfl

/-- A computation succeeds when it does with other errors. -/
theorem mapError_eq_ok_iff {ε' : Type} {f : ε → ε'} {x : Except ε α} {a : α} :
    x.mapError f = .ok a ↔ x = .ok a := by
  cases x with
  | error e => exact iff_of_false (fun h => by cases h) (fun h => by cases h)
  | ok a' =>
    change Except.ok a' = Except.ok a ↔ _
    rw [Except.ok.injEq, Except.ok.injEq]

/-- A check followed by a result succeeds with that result when the check does. -/
theorem map_const_eq_ok_iff {x : Except ε Unit} {b c : β} :
    (x.map fun _ => b) = .ok c ↔ x = .ok () ∧ b = c := by
  cases x <;> simp [Except.map]

/-- A check of all items succeeds when each of them does. -/
theorem forM_eq_ok_iff {check : α → Except ε Unit} {as : List α} :
    forM as check = .ok () ↔ ∀ a ∈ as, check a = .ok () := by
  induction as with
  | nil => simp [pure, Except.pure]
  | cons a as ih =>
    rw [List.forM_cons, List.forall_mem_cons, ← ih, bind_eq_ok_iff]
    constructor
    · rintro ⟨⟨⟩, ha, has⟩
      exact ⟨ha, has⟩
    · exact fun h => ⟨(), h⟩

/-- Computations that all succeed succeed together, with all their results. -/
theorem mapM_eq_ok_map {f : α → Except ε β} {g : α → β} {as : List α}
    (h : ∀ a ∈ as, f a = .ok (g a)) : as.mapM f = .ok (as.map g) := by
  induction as with
  | nil => rfl
  | cons a as ih =>
    obtain ⟨ha, has⟩ := List.forall_mem_cons.mp h
    rw [List.mapM_cons, ha, ih has]
    rfl

end Catalog
