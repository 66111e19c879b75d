import Catalog.Package.Transport
import Mathlib.Data.List.Nodup

/-!
# Laws of the members of objects

How looking up a member goes together with joining, setting and removing members.

## Main results

* `Members.value?_of_mem` — where no key occurs twice, every member is found under its key.
* `Members.set_of_value?_eq_some` — setting a member to the value that it has changes nothing.
* `Members.value?_remove` — removing a member takes away just that member.
* `Members.others_set`, `Members.others_remove_perm` — the members beside the known ones, after a
  known one was changed.
-/

namespace Catalog.Json

namespace Members

variable {ms ms' : Members} {k key : String} {v w : Json} {known : List String}

/-! ### Looking up -/

theorem value?_eq_none_iff : ms.value? key = none ↔ key ∉ ms.keys := by
  induction ms with
  | nil => simp [keys]
  | cons m ms ih =>
    obtain ⟨l, w⟩ := m
    rw [value?_cons]
    by_cases h : l = key
    · simp [keys, h]
    · rw [if_neg h, ih]
      simp [keys, Ne.symm h]

theorem mem_of_value?_eq_some (h : ms.value? key = some v) : (key, v) ∈ ms := by
  induction ms with
  | nil => simp at h
  | cons m ms ih =>
    obtain ⟨l, w⟩ := m
    rw [value?_cons] at h
    split at h
    · next heq =>
      obtain rfl := Option.some.inj h
      simp [heq]
    · exact List.mem_cons_of_mem _ (ih h)

/-- Where no key occurs twice, every member is found under its key. -/
theorem value?_of_mem (hms : ms.keys.Nodup) (h : (key, v) ∈ ms) : ms.value? key = some v := by
  induction ms with
  | nil => simp at h
  | cons m ms ih =>
    obtain ⟨l, w⟩ := m
    have hms : l ∉ keys ms ∧ (keys ms).Nodup := List.nodup_cons.mp hms
    rw [value?_cons]
    rcases List.mem_cons.mp h with heq | hmem
    · obtain ⟨rfl, rfl⟩ := Prod.mk.inj heq
      rw [if_pos rfl]
    · have hne : l ≠ key := by
        rintro rfl
        exact hms.1 (List.mem_map_of_mem hmem)
      rw [if_neg hne, ih hms.2 hmem]

theorem value?_append :
    value? (ms ++ ms') key = (ms.value? key).or (ms'.value? key) := by
  induction ms with
  | nil => simp
  | cons m ms ih =>
    obtain ⟨l, w⟩ := m
    rw [List.cons_append, value?_cons, value?_cons, ih]
    split <;> rfl

theorem array?_eq_some_iff {xs : List Json} :
    ms.array? key = some xs ↔ ms.value? key = some (.arr xs) := by
  rw [array?]
  split
  · next ys hys => simp [hys]
  · next hno => exact iff_of_false (fun h => by cases h) (hno xs)

theorem object?_eq_some_iff : ms.object? key = some ms' ↔ ms.value? key = some (.obj ms') := by
  rw [object?]
  split
  · next inner hinner => simp [hinner]
  · next hno => exact iff_of_false (fun h => by cases h) (hno ms')

theorem string?_eq_some_iff {s : String} :
    ms.string? key = some s ↔ ms.value? key = some (.str s) := by
  rw [string?]
  split
  · next t ht => simp [ht]
  · next hno => exact iff_of_false (fun h => by cases h) (hno s)

/-- The value of a member that is there and not `null`. -/
theorem given?_eq_some_iff : ms.given? key = some v ↔ ms.value? key = some v ∧ v ≠ .null := by
  have hnull : v.isNull = false ↔ v ≠ .null := by cases v <;> simp [Json.isNull]
  rw [given?, Option.filter_eq_some_iff, ← hnull]
  simp

@[simp] theorem value?_given {α : Type} (encode : α → Json) (o : Option α) :
    (given k encode o).value? key = if k = key then o.map encode else none := by
  cases o with
  | none => simp [given]
  | some a => simp [given, value?_cons]

/-! ### Setting -/

/-- Setting a member to the value that it has changes nothing. -/
theorem set_of_value?_eq_some (h : ms.value? key = some v) : ms.set key v = ms := by
  induction ms with
  | nil => simp at h
  | cons m ms ih =>
    obtain ⟨l, w⟩ := m
    rw [value?_cons] at h
    rw [set]
    split at h
    · next heq =>
      obtain rfl := Option.some.inj h
      rw [if_pos heq, heq]
    · next hne => rw [if_neg hne, ih h]

theorem set_eq_self_iff : ms.set key v = ms ↔ ms.value? key = some v := by
  refine ⟨fun h => ?_, set_of_value?_eq_some⟩
  rw [← h, value?_set, if_pos rfl]

/-- Of two values the later one stays. -/
theorem set_set : (ms.set key v).set key w = ms.set key w := by
  induction ms with
  | nil => simp [set]
  | cons m ms ih =>
    obtain ⟨l, u⟩ := m
    by_cases hl : l = key
    · simp [set, hl]
    · simp [set, hl, ih]

theorem set_of_notMem (h : key ∉ ms.keys) : ms.set key v = ms ++ [(key, v)] := by
  induction ms with
  | nil => rfl
  | cons m ms ih =>
    obtain ⟨l, w⟩ := m
    obtain ⟨hne, hrest⟩ : key ≠ l ∧ key ∉ keys ms := by simpa [keys] using h
    rw [set, if_neg (Ne.symm hne), ih hrest, List.cons_append]

/-- A member that is there already keeps its place. -/
theorem keys_set_of_mem (h : key ∈ ms.keys) : (ms.set key v).keys = ms.keys := by
  induction ms with
  | nil => simp [keys] at h
  | cons m ms ih =>
    obtain ⟨l, w⟩ := m
    rw [set]
    split
    · rfl
    · next hne =>
      have hrest : key ∈ keys ms := by simpa [keys, Ne.symm hne] using h
      exact congrArg (l :: ·) (ih hrest)

theorem mem_of_mem_set {m : String × Json} (h : m ∈ ms.set key v) : m ∈ ms ∨ m = (key, v) := by
  induction ms with
  | nil => exact Or.inr (List.mem_singleton.mp h)
  | cons m' ms ih =>
    obtain ⟨l, w⟩ := m'
    rw [set] at h
    split at h
    · next hl =>
      rcases List.mem_cons.mp h with rfl | hm
      · exact Or.inr (by rw [hl])
      · exact Or.inl (List.mem_cons_of_mem _ hm)
    · rcases List.mem_cons.mp h with rfl | hm
      · exact Or.inl List.mem_cons_self
      · exact (ih hm).imp_left (List.mem_cons_of_mem _)

theorem keys_set_nodup (h : ms.keys.Nodup) : (ms.set key v).keys.Nodup := by
  by_cases hmem : key ∈ ms.keys
  · rwa [keys_set_of_mem hmem]
  · rw [set_of_notMem hmem, keys, List.map_append, List.nodup_append]
    refine ⟨h, by simp, ?_⟩
    rintro a ha b hb rfl
    have heq : a = key := by simpa using hb
    exact hmem (heq ▸ ha)

/-! ### Removing -/

/-- The members that are left after one is removed, in another order. -/
theorem remove_perm (h : ms.keys.Nodup) :
    (remove ms key).Perm (ms.filter fun m => m.1 ≠ key) := by
  induction ms with
  | nil => simp [remove]
  | cons m ms ih =>
    obtain ⟨l, w⟩ := m
    have hms : l ∉ keys ms ∧ (keys ms).Nodup := List.nodup_cons.mp h
    rw [remove]
    split
    · next heq =>
      subst heq
      -- no other member has the key, and the last one goes to the front
      have hrest : ms.filter (fun m => m.1 ≠ l) = ms := by
        refine List.filter_eq_self.mpr fun e he => ?_
        have : e.1 ≠ l := fun heq => hms.1 (heq ▸ List.mem_map_of_mem he)
        simpa using this
      rw [List.filter_cons_of_neg (by simp), hrest]
      cases hlast : ms.getLast? with
      | none => rw [List.getLast?_eq_none_iff.mp hlast]
      | some last =>
        have hsplit := List.dropLast_append_getLast? last hlast
        calc last :: ms.dropLast
          _ |>.Perm (ms.dropLast ++ [last]) := (List.perm_append_singleton _ _).symm
          _ = ms := hsplit
    · next hne =>
      rw [List.filter_cons_of_pos (by simpa using hne)]
      exact (ih hms.2).cons _

theorem keys_remove_nodup (h : ms.keys.Nodup) : (remove ms key).keys.Nodup := by
  refine (List.Perm.nodup_iff ((remove_perm h).map Prod.fst)).mpr ?_
  exact h.sublist (List.filter_sublist.map Prod.fst)

theorem mem_of_mem_remove (h : ms.keys.Nodup) {m : String × Json} (hm : m ∈ ms.remove key) :
    m ∈ ms :=
  List.mem_of_mem_filter ((remove_perm h).mem_iff.mp hm)

/-- Removing a member takes away just that member. -/
theorem value?_remove (h : ms.keys.Nodup) :
    (remove ms k).value? key = if k = key then none else ms.value? key := by
  have hmem : ∀ v, (key, v) ∈ remove ms k ↔ (key, v) ∈ ms ∧ key ≠ k := by
    intro v
    rw [(remove_perm h).mem_iff]
    simp
  split
  · next heq =>
    rw [value?_eq_none_iff]
    intro hkey
    obtain ⟨⟨l, v⟩, hv, rfl⟩ := List.mem_map.mp hkey
    exact ((hmem v).mp hv).2 heq.symm
  · next hne =>
    cases hv : ms.value? key with
    | none =>
      rw [value?_eq_none_iff] at hv ⊢
      intro hkey
      obtain ⟨⟨l, v⟩, hv', rfl⟩ := List.mem_map.mp hkey
      exact hv (List.mem_map_of_mem ((hmem v).mp hv').1)
    | some v =>
      have hin := (hmem v).mpr ⟨mem_of_value?_eq_some hv, Ne.symm hne⟩
      exact value?_of_mem (keys_remove_nodup h) hin

/-! ### Members beside the known ones -/

theorem others_cons {m : String × Json} : others (m :: ms) known =
    if m.1 ∈ known then ms.others known else m :: ms.others known := by
  rw [others, List.filter_cons]
  by_cases h : m.1 ∈ known <;> simp [h, others]

/-- A known member does not count among the others. -/
theorem others_set (hkey : key ∈ known) :
    (ms.set key v).others known = ms.others known := by
  induction ms with
  | nil => simp [set, others, hkey]
  | cons m ms ih =>
    obtain ⟨l, w⟩ := m
    rw [set]
    split
    · next hl => rw [others_cons, others_cons, if_pos (hl ▸ hkey), if_pos (hl ▸ hkey)]
    · rw [others_cons, others_cons, ih]

/-- Where a known member is removed, the others may come in another order. -/
theorem others_remove_perm (h : ms.keys.Nodup) (hkey : key ∈ known) :
    ((remove ms key).others known).Perm (ms.others known) := by
  have hothers : others (ms.filter fun m => m.1 ≠ key) known = ms.others known := by
    rw [others, others, List.filter_filter]
    refine List.filter_congr fun m _ => ?_
    by_cases hm : m.1 ∈ known
    · simp [hm]
    · have hne : m.1 ≠ key := fun heq => hm (heq ▸ hkey)
      simp [hm, hne]
  rw [← hothers]
  exact (remove_perm h).filter _

end Members

end Catalog.Json
