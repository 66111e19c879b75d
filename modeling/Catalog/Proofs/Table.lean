import Catalog.Table
import Mathlib.Data.List.Nodup

/-!
# Laws of sorted tables

A table that is built with `insert` has strictly increasing keys. In such a table every entry is
found under its key, and putting another value at a key changes that entry and no other.

## Main definitions

* `Table.Sorted` — the keys of a table are strictly increasing.

## Main results

* `Sorted.insert`, `sorted_ofList` — tables that are built with `insert` are sorted.
* `Sorted.ofList_eq` — a sorted table is rebuilt from its entries.
* `ofList_perm` — a table of entries with different keys has these entries.
* `Sorted.insert_eq_map` — putting a value at a key that is there changes that entry only.
* `Sorted.ext` — a sorted table is known by what is found in it.
-/

namespace Catalog.Table

variable {α : Type} {t : Table α} {k key : String} {a b : α} {e : String × α}

/-- The keys are strictly increasing. -/
def Sorted (t : Table α) : Prop := t.Pairwise fun e f => e.1 < f.1

theorem sorted_nil : Sorted ([] : Table α) := List.Pairwise.nil

theorem sorted_cons_iff : Sorted (e :: t) ↔ (∀ f ∈ t, e.1 < f.1) ∧ Sorted t :=
  List.pairwise_cons

theorem Sorted.nodup_keys (h : Sorted t) : (keys t).Nodup := by
  rw [keys, List.nodup_iff_pairwise_ne, List.pairwise_map]
  exact h.imp String.ne_of_lt

/-- Of two different keys, one comes before the other. -/
theorem lt_of_not_lt_of_ne (hlt : ¬ k < key) (hne : key ≠ k) : key < k :=
  String.not_le.mp fun hle => hne (String.le_antisymm (String.not_lt.mp hlt) hle)

/-! ### Looking up -/

theorem mem_of_get?_eq_some (h : t.get? key = some a) : (key, a) ∈ t := by
  induction t with
  | nil => simp at h
  | cons e t ih =>
    obtain ⟨l, b⟩ := e
    rw [get?] at h
    split at h
    · next heq =>
      obtain rfl := Option.some.inj h
      simp [heq]
    · exact List.mem_cons_of_mem _ (ih h)

theorem get?_eq_none_iff : t.get? key = none ↔ key ∉ t.keys := by
  induction t with
  | nil => simp [keys]
  | cons e t ih =>
    obtain ⟨l, b⟩ := e
    rw [get?, keys, List.map_cons, List.mem_cons, not_or]
    split
    · next heq => simp [heq]
    · next hne =>
      rw [ih]
      exact ⟨fun h => ⟨Ne.symm hne, h⟩, fun h => h.2⟩

/-- In a sorted table every entry is found under its key. -/
theorem Sorted.get?_of_mem (h : Sorted t) (hmem : (key, a) ∈ t) : t.get? key = some a := by
  induction t with
  | nil => simp at hmem
  | cons e t ih =>
    obtain ⟨l, b⟩ := e
    obtain ⟨hlt, hsorted⟩ := sorted_cons_iff.mp h
    rw [get?]
    rcases List.mem_cons.mp hmem with heq | hmem
    · obtain ⟨rfl, rfl⟩ := Prod.mk.inj heq
      rw [if_pos rfl]
    · have hne : l ≠ key := String.ne_of_lt (hlt _ hmem)
      rw [if_neg hne, ih hsorted hmem]

/-- A sorted table is known by what is found in it. -/
theorem Sorted.ext {t' : Table α} (h : Sorted t) (h' : Sorted t')
    (hget : ∀ key, t.get? key = t'.get? key) : t = t' := by
  have hmem : ∀ e, e ∈ t ↔ e ∈ t' := by
    rintro ⟨key, a⟩
    constructor
    · intro he
      exact mem_of_get?_eq_some ((hget key).symm.trans (h.get?_of_mem he))
    · intro he
      exact mem_of_get?_eq_some ((hget key).trans (h'.get?_of_mem he))
  have hnodup : ∀ {t : Table α}, Sorted t → t.Nodup := fun h => h.nodup_keys.of_map
  have hperm := (List.perm_ext_iff_of_nodup (hnodup h) (hnodup h')).mpr hmem
  exact hperm.eq_of_pairwise (fun _ _ _ _ hlt hgt => absurd hgt (String.lt_asymm hlt)) h h'

/-- Changing all values changes what is found. -/
theorem get?_map {β : Type} (t : Table α) (f : String → α → β) (key : String) :
    get? (t.map fun e => (e.1, f e.1 e.2)) key = (t.get? key).map (f key) := by
  induction t with
  | nil => rfl
  | cons e t ih =>
    obtain ⟨k, a⟩ := e
    rw [List.map_cons, get?, get?]
    split
    · next heq => rw [heq, Option.map_some]
    · exact ih

theorem Sorted.map {β : Type} (h : Sorted t) (f : String → α → β) :
    Sorted (t.map fun e => (e.1, f e.1 e.2)) := by
  rw [Sorted, List.pairwise_map]
  exact h

/-! ### Inserting -/

theorem eq_or_mem_of_mem_insert (h : e ∈ t.insert k a) : e = (k, a) ∨ e ∈ t := by
  induction t with
  | nil => simpa [insert] using h
  | cons f t ih =>
    obtain ⟨l, b⟩ := f
    rw [insert] at h
    split at h
    · exact List.mem_cons.mp h
    · split at h
      · exact (List.mem_cons.mp h).imp_right (List.mem_cons_of_mem _)
      · rcases List.mem_cons.mp h with rfl | hmem
        · exact Or.inr (List.mem_cons_self ..)
        · exact (ih hmem).imp_right (List.mem_cons_of_mem _)

theorem Sorted.insert (h : Sorted t) (k : String) (a : α) : Sorted (t.insert k a) := by
  induction t with
  | nil => exact List.pairwise_singleton _ _
  | cons e t ih =>
    obtain ⟨l, b⟩ := e
    obtain ⟨hlt, hsorted⟩ := sorted_cons_iff.mp h
    rw [Table.insert]
    split
    · next hkl =>
      refine sorted_cons_iff.mpr ⟨?_, h⟩
      rintro f hf
      rcases List.mem_cons.mp hf with rfl | hf
      · exact hkl
      · exact String.lt_trans hkl (hlt f hf)
    · next hkl =>
      split
      · next heq =>
        subst heq
        exact sorted_cons_iff.mpr ⟨hlt, hsorted⟩
      · next hne =>
        refine sorted_cons_iff.mpr ⟨?_, ih hsorted⟩
        intro f hf
        rcases eq_or_mem_of_mem_insert hf with rfl | hf
        · exact lt_of_not_lt_of_ne hkl (Ne.symm hne)
        · exact hlt f hf

theorem sorted_foldl_insert (entries : List (String × α)) (h : Sorted t) :
    Sorted (entries.foldl (fun t (k, a) => t.insert k a) t) := by
  induction entries generalizing t with
  | nil => exact h
  | cons e entries ih => exact ih (h.insert _ _)

/-- Tables that are built with `insert` are sorted. -/
theorem sorted_ofList (entries : List (String × α)) : Sorted (ofList entries) :=
  sorted_foldl_insert entries sorted_nil

theorem mem_of_mem_foldl_insert {entries : List (String × α)}
    (h : e ∈ entries.foldl (fun t (k, a) => t.insert k a) t) : e ∈ t ∨ e ∈ entries := by
  induction entries generalizing t with
  | nil => exact Or.inl h
  | cons f entries ih =>
    rcases ih h with hmem | hmem
    · rcases eq_or_mem_of_mem_insert hmem with rfl | hmem
      · exact Or.inr (List.mem_cons_self ..)
      · exact Or.inl hmem
    · exact Or.inr (List.mem_cons_of_mem _ hmem)

theorem mem_of_mem_ofList {entries : List (String × α)} (h : e ∈ ofList entries) : e ∈ entries :=
  (mem_of_mem_foldl_insert h).resolve_left (by simp)

theorem get?_adjust [Inhabited α] (f : α → α) : (t.adjust k f).get? key =
    if k = key then some (f ((t.get? k).getD default)) else t.get? key := by
  rw [adjust, get?_insert]

theorem Sorted.adjust [Inhabited α] (h : Sorted t) (k : String) (f : α → α) :
    Sorted (t.adjust k f) := h.insert k _

/-- A key behind all others goes last. -/
theorem insert_of_lt (h : ∀ e ∈ t, e.1 < k) : t.insert k a = t ++ [(k, a)] := by
  induction t with
  | nil => rfl
  | cons e t ih =>
    obtain ⟨l, b⟩ := e
    obtain ⟨hlt, hrest⟩ := List.forall_mem_cons.mp h
    rw [insert, if_neg (String.lt_asymm hlt), if_neg (Ne.symm (String.ne_of_lt hlt)), ih hrest,
      List.cons_append]

/-- A sorted table is rebuilt from its entries. -/
theorem Sorted.ofList_eq (h : Sorted t) : ofList t = t := by
  -- the entries before are kept, so the later ones go behind them one by one
  have key : ∀ (t acc : Table α), Sorted (acc ++ t) →
      t.foldl (fun t (k, a) => Table.insert t k a) acc = acc ++ t := by
    intro t
    induction t with
    | nil => intro acc _; simp
    | cons e t ih =>
      intro acc hacc
      obtain ⟨k, a⟩ := e
      have hlt : ∀ f ∈ acc, f.1 < k := fun f hf =>
        (List.pairwise_append.mp hacc).2.2 f hf _ (List.mem_cons_self ..)
      simp only [List.foldl_cons]
      rw [insert_of_lt hlt, ih _ (by simpa using hacc)]
      simp
  exact key t [] h

/-- A value at a new key is one more entry. -/
theorem insert_perm (h : k ∉ t.keys) : (t.insert k a).Perm ((k, a) :: t) := by
  induction t with
  | nil => exact List.Perm.refl _
  | cons e t ih =>
    obtain ⟨l, b⟩ := e
    rw [keys, List.map_cons, List.mem_cons, not_or] at h
    obtain ⟨hne, h⟩ := h
    rw [insert, if_neg hne]
    split
    · exact List.Perm.refl _
    · exact ((ih h).cons (l, b)).trans (List.Perm.swap ..)

theorem foldl_insert_perm {entries : List (String × α)} (h : (keys (t ++ entries)).Nodup) :
    (entries.foldl (fun t (k, a) => t.insert k a) t).Perm (t ++ entries) := by
  induction entries generalizing t with
  | nil => rw [List.append_nil, List.foldl_nil]
  | cons e entries ih =>
    obtain ⟨k, a⟩ := e
    have hnew : k ∉ t.keys := by
      rw [keys, List.map_append, List.nodup_append] at h
      exact fun hk => h.2.2 k hk k List.mem_cons_self rfl
    have hperm : (t.insert k a ++ entries).Perm (t ++ (k, a) :: entries) :=
      ((insert_perm hnew).append_right entries).trans List.perm_middle.symm
    refine (ih ?_).trans hperm
    rwa [keys, (hperm.map Prod.fst).nodup_iff]

/-- The table of entries with different keys has these entries. -/
theorem ofList_perm {entries : List (String × α)} (h : (entries.map Prod.fst).Nodup) :
    (ofList entries).Perm entries :=
  foldl_insert_perm (t := []) h

/-- Putting a value at a key that is there changes that entry only. -/
theorem Sorted.insert_eq_map (h : Sorted t) (hkey : t.get? k = some b) :
    t.insert k a = t.map fun e => if e.1 = k then (k, a) else e := by
  induction t with
  | nil => simp at hkey
  | cons e t ih =>
    obtain ⟨l, c⟩ := e
    obtain ⟨hlt, hsorted⟩ := sorted_cons_iff.mp h
    rw [get?] at hkey
    rw [Table.insert, List.map_cons]
    by_cases heq : l = k
    · subst heq
      have hrest : (t.map fun e => if e.1 = l then (l, a) else e) = t := by
        conv => rhs; rw [← List.map_id t]
        exact List.map_congr_left fun f hf => if_neg (Ne.symm (String.ne_of_lt (hlt f hf)))
      rw [if_neg (String.lt_irrefl _), if_pos rfl, hrest, if_pos rfl]
    · rw [if_neg heq] at hkey
      -- the key is further back, so it is greater than this one
      have hmem := mem_of_get?_eq_some hkey
      rw [if_neg (String.lt_asymm (hlt _ hmem)), if_neg (Ne.symm heq), ih hsorted hkey, if_neg heq]

end Catalog.Table
