import Catalog.Migration.Diff
import Catalog.Proofs.Json.Same

/-!
# Exact differences

The differences between two `packages` arrays are the list of all edits: an index is listed just
when the elements there are not equal as values, and its changes name each member that differs,
once, with its values before and after. So nothing is listed just when the arrays are equal, and
whoever makes the changes to the first array gets the second one.

## Main definitions

* `Describes` — the changes say exactly what differs between two elements.
* `RecordDiff.apply` — an array with the changes made to it.
* `RecordDiff.Exact` — a list of differences is the list of all edits between two arrays.

## Main results

* `diffElement_eq_nil_iff`, `describes_diffElement` — the changes of one element.
* `rel_applyChanges_diffElement`, `RecordDiff.equal_apply` — making the changes to an element and to
  an array.
* `diffElements_eq`, `mem_diffElements_iff` — the differences of an array, index by index.
* `diffPackages_exact` — **differences are exact.**
-/

namespace Catalog

open Json (Members)
open Json.Members

variable {before after : Option Json} {old new ms : Members} {c : FieldChange}
  {changes : List FieldChange} {a b : List Json} {id : String}

/-! ### The changes of an object -/

/-- Decides whether two optional documents are equal as values. -/
theorem sameOption_iff (hbefore : ∀ v ∈ before, v.WellFormed) (hafter : ∀ v ∈ after, v.WellFormed) :
    sameOption before after = true ↔ Option.Rel Json.Equal before after := by
  cases before with
  | none => cases after <;> simp [sameOption]
  | some v =>
    cases after with
    | none => simp [sameOption]
    | some w =>
      rw [sameOption, Json.same_iff (hbefore v rfl) (hafter w rfl)]
      simp

theorem mem_changedMembers_iff (hold : (Json.obj old).WellFormed)
    (hnew : (Json.obj new).WellFormed) : c ∈ changedMembers old new ↔
      old.value? c.field ≠ none ∧ c.before = old.value? c.field ∧
        c.after = new.value? c.field ∧ ¬ Option.Rel Json.Equal c.before c.after := by
  have hkeys := (Json.wellFormed_obj_iff.mp hold).1
  rw [changedMembers, List.mem_filterMap]
  constructor
  · rintro ⟨⟨key, v⟩, hmem, hc⟩
    have hv := value?_of_mem hkeys hmem
    have hwf := hold.of_value? hv
    dsimp only at hc
    cases hw : new.value? key with
    | none =>
      rw [hw] at hc
      obtain rfl := Option.some.inj hc
      simp [hv, hw]
    | some w =>
      rw [hw] at hc
      dsimp only at hc
      split at hc
      · cases hc
      · next hdiffers =>
        obtain rfl := Option.some.inj hc
        rw [Json.same_iff hwf (hnew.of_value? hw)] at hdiffers
        simp [hv, hw, hdiffers]
  · obtain ⟨field, before, after⟩ := c
    dsimp only
    rintro ⟨hsome, rfl, rfl, hdiffers⟩
    obtain ⟨v, hv⟩ := Option.ne_none_iff_exists'.mp hsome
    refine ⟨(field, v), mem_of_value?_eq_some hv, ?_⟩
    dsimp only
    cases hw : new.value? field with
    | none => rw [hv]
    | some w =>
      rw [hv, hw, Json.rel_some_left_iff] at hdiffers
      have hsame : ¬ v.same w = true := by
        rw [Json.same_iff (hold.of_value? hv) (hnew.of_value? hw)]
        exact fun h => hdiffers ⟨w, rfl, h⟩
      dsimp only
      rw [if_neg hsame, hv]

theorem mem_addedMembers_iff (hnew : (Json.obj new).WellFormed) :
    c ∈ addedMembers old new ↔ old.value? c.field = none ∧ c.before = old.value? c.field ∧
      c.after = new.value? c.field ∧ ¬ Option.Rel Json.Equal c.before c.after := by
  have hkeys := (Json.wellFormed_obj_iff.mp hnew).1
  rw [addedMembers, List.mem_filterMap]
  constructor
  · rintro ⟨⟨key, v⟩, hmem, hc⟩
    have hv := value?_of_mem hkeys hmem
    dsimp only at hc
    split at hc
    · cases hc
    · next hnone =>
      obtain rfl := Option.some.inj hc
      have hnone : old.value? key = none := by simpa using hnone
      simp [hv, hnone]
  · obtain ⟨field, before, after⟩ := c
    dsimp only
    rintro ⟨hnone, rfl, rfl, hdiffers⟩
    rw [hnone, Json.rel_none_left_iff] at hdiffers
    obtain ⟨v, hv⟩ := Option.ne_none_iff_exists'.mp hdiffers
    refine ⟨(field, v), mem_of_value?_eq_some hv, ?_⟩
    simp [hnone, hv]

/-- The changes of an object name each member that differs, with its values before and after. -/
theorem mem_changes_iff (hold : (Json.obj old).WellFormed) (hnew : (Json.obj new).WellFormed) :
    c ∈ changedMembers old new ++ addedMembers old new ↔ c.before = old.value? c.field ∧
      c.after = new.value? c.field ∧ ¬ Option.Rel Json.Equal c.before c.after := by
  rw [List.mem_append, mem_changedMembers_iff hold hnew, mem_addedMembers_iff hnew]
  by_cases h : old.value? c.field = none <;> simp [h]

/-- No change of an object is named twice. -/
theorem nodup_changes (hold : (Json.obj old).WellFormed) (hnew : (Json.obj new).WellFormed) :
    ((changedMembers old new ++ addedMembers old new).map (·.field)).Nodup := by
  have hfields : ∀ {ms : Members} {f : String × Json → Option FieldChange},
      (Json.obj ms).WellFormed → (∀ m c, f m = some c → c.field = m.1) →
      ((ms.filterMap f).map (·.field)).Nodup := by
    intro ms f hms hf
    have hkeys := (Json.wellFormed_obj_iff.mp hms).1
    rw [keys, List.nodup_iff_pairwise_ne, List.pairwise_map] at hkeys
    rw [List.nodup_iff_pairwise_ne, List.pairwise_map]
    refine hkeys.filterMap f fun m m' hne c hc c' hc' => ?_
    rwa [hf m c hc, hf m' c' hc']
  rw [List.map_append, List.nodup_append]
  refine ⟨hfields hold ?_, hfields hnew ?_, ?_⟩
  · rintro ⟨key, v⟩ c hc
    dsimp only at hc
    split at hc
    · split at hc
      · cases hc
      · obtain rfl := Option.some.inj hc
        rfl
    · obtain rfl := Option.some.inj hc
      rfl
  · rintro ⟨key, v⟩ c hc
    dsimp only at hc
    split at hc
    · cases hc
    · obtain rfl := Option.some.inj hc
      rfl
  · -- a member that was changed was there before, an added one was not
    rintro field hchanged _ hadded rfl
    obtain ⟨c, hc, rfl⟩ := List.mem_map.mp hchanged
    obtain ⟨c', hc', heq⟩ := List.mem_map.mp hadded
    have hnone := ((mem_addedMembers_iff hnew).mp hc').1
    rw [heq] at hnone
    exact ((mem_changedMembers_iff hold hnew).mp hc).1 hnone

/-! ### The changes of an element -/

/-- Both elements are objects, so that they are compared member by member. -/
def AreObjects (before after : Option Json) : Prop :=
  ∃ old new, before = some (.obj old) ∧ after = some (.obj new)

/-- The changes say exactly what differs between an element before and after: of two objects the
members that are not equal, each once and with both of its values, of any other two elements both as
a whole. -/
inductive Describes : List FieldChange → Option Json → Option Json → Prop
  | members {changes : List FieldChange} {old new : Members}
    (names : (changes.map (·.field)).Nodup)
    (exact : ∀ c, c ∈ changes ↔ c.before = old.value? c.field ∧ c.after = new.value? c.field ∧
      ¬ Option.Rel Json.Equal c.before c.after) :
    Describes changes (some (.obj old)) (some (.obj new))
  | whole {before after : Option Json}
    (kinds : ¬ AreObjects before after) : Describes [⟨".", before, after⟩] before after

theorem diffElement_obj :
    diffElement (some (.obj old)) (some (.obj new)) =
      changedMembers old new ++ addedMembers old new := rfl

theorem diffElement_of_not_areObjects (h : ¬ AreObjects before after) :
    diffElement before after =
      if sameOption before after then [] else [⟨".", before, after⟩] := by
  rw [diffElement]
  exact fun old new hbefore hafter => h ⟨old, new, hbefore, hafter⟩

/-- Elements that are equal have no changes, and no others. -/
theorem diffElement_eq_nil_iff (hbefore : ∀ v ∈ before, v.WellFormed)
    (hafter : ∀ v ∈ after, v.WellFormed) :
    diffElement before after = [] ↔ Option.Rel Json.Equal before after := by
  by_cases hkinds : AreObjects before after
  · obtain ⟨old, new, rfl, rfl⟩ := hkinds
    have hchange := fun c => mem_changes_iff (c := c) (hbefore _ rfl) (hafter _ rfl)
    rw [diffElement_obj, List.eq_nil_iff_forall_not_mem]
    simp only [hchange, Json.rel_some_left_iff, Option.some.injEq, exists_eq_left',
      Json.equal_obj_iff]
    constructor
    · intro h key
      by_contra hrel
      exact h ⟨key, _, _⟩ ⟨rfl, rfl, hrel⟩
    · rintro h c ⟨hbefore, hafter, hrel⟩
      rw [hbefore, hafter] at hrel
      exact hrel (h c.field)
  · rw [diffElement_of_not_areObjects hkinds, ← sameOption_iff hbefore hafter]
    split <;> simp_all

/-- The changes of elements that are not equal describe them. -/
theorem describes_diffElement (hbefore : ∀ v ∈ before, v.WellFormed)
    (hafter : ∀ v ∈ after, v.WellFormed) (h : diffElement before after ≠ []) :
    Describes (diffElement before after) before after := by
  by_cases hkinds : AreObjects before after
  · obtain ⟨old, new, rfl, rfl⟩ := hkinds
    exact .members (nodup_changes (hbefore _ rfl) (hafter _ rfl))
      fun c => mem_changes_iff (hbefore _ rfl) (hafter _ rfl)
  · rw [diffElement_of_not_areObjects hkinds] at h ⊢
    split
    · next hsame => exact absurd (if_pos hsame) h
    · exact .whole hkinds

/-! ### Making changes -/

/-- The members with a change made to them. -/
def FieldChange.applyTo (c : FieldChange) (ms : Members) : Members :=
  match c.after with
  | some v => ms.set c.field v
  | none => ms.remove c.field

/-- An element with changes made to it. A change under `.` that has the element itself before it
replaces the element; it is no change to a member, since no object is a member of itself. -/
def applyChanges (element : Option Json) (changes : List FieldChange) : Option Json :=
  match changes.find? fun c => c.field = "." ∧ c.before = element with
  | some c => c.after
  | none =>
    match element with
    | some (.obj ms) => some (.obj (changes.foldl (fun ms c => c.applyTo ms) ms))
    | other => other

@[simp] theorem applyChanges_nil (element : Option Json) : applyChanges element [] = element := by
  cases element with
  | none => rfl
  | some v => cases v <;> rfl

/-- No object is a member of itself. -/
theorem value?_ne_self (ms : Members) (key : String) : ms.value? key ≠ some (.obj ms) := by
  intro h
  have hmem := List.sizeOf_lt_of_mem (mem_of_value?_eq_some h)
  simp only [Prod.mk.sizeOf_spec, Json.obj.sizeOf_spec] at hmem
  omega

theorem applyChanges_obj (h : ∀ c ∈ changes, c.before = ms.value? c.field) :
    applyChanges (some (.obj ms)) changes =
      some (.obj (changes.foldl (fun ms c => c.applyTo ms) ms)) := by
  have hnone : changes.find? (fun c => c.field = "." ∧ c.before = some (.obj ms)) = none := by
    rw [List.find?_eq_none]
    intro c hc
    rw [decide_eq_true_eq]
    rintro ⟨-, hself⟩
    exact value?_ne_self ms c.field ((h c hc).symm.trans hself)
  rw [applyChanges, hnone]

theorem keys_applyTo_nodup (hms : ms.keys.Nodup) (c : FieldChange) : (c.applyTo ms).keys.Nodup := by
  rw [FieldChange.applyTo]
  split
  · exact keys_set_nodup hms
  · exact keys_remove_nodup hms

/-- A change reads back, and no other member changes. -/
theorem value?_applyTo (hms : ms.keys.Nodup) (c : FieldChange) (key : String) :
    (c.applyTo ms).value? key = if c.field = key then c.after else ms.value? key := by
  rw [FieldChange.applyTo]
  split
  · next v hv => rw [value?_set, hv]
  · next hnone => rw [value?_remove hms, hnone]

/-- Members that no change names stay as they are. -/
theorem value?_foldl_applyTo_of_notMem (hms : ms.keys.Nodup) {key : String}
    (h : key ∉ changes.map (·.field)) :
    value? (changes.foldl (fun ms c => c.applyTo ms) ms) key = ms.value? key := by
  induction changes generalizing ms with
  | nil => rfl
  | cons c changes ih =>
    rw [List.map_cons, List.mem_cons, not_or] at h
    rw [List.foldl_cons, ih (keys_applyTo_nodup hms c) h.2, value?_applyTo hms,
      if_neg (Ne.symm h.1)]

/-- Of changes to different members each reads back. -/
theorem value?_foldl_applyTo (hms : ms.keys.Nodup) (hnames : (changes.map (·.field)).Nodup)
    (hc : c ∈ changes) :
    value? (changes.foldl (fun ms c => c.applyTo ms) ms) c.field = c.after := by
  induction changes generalizing ms with
  | nil => exact absurd hc List.not_mem_nil
  | cons c' changes ih =>
    obtain ⟨hnew, hnames⟩ := List.nodup_cons.mp hnames
    rw [List.foldl_cons]
    rcases List.mem_cons.mp hc with rfl | hc
    · rw [value?_foldl_applyTo_of_notMem (keys_applyTo_nodup hms c) hnew, value?_applyTo hms,
        if_pos rfl]
    · exact ih (keys_applyTo_nodup hms c') hnames hc

/-- Making changes that describe two elements to the first one gives the second one. -/
theorem Describes.rel_applyChanges (h : Describes changes before after)
    (hbefore : ∀ v ∈ before, v.WellFormed) (hafter : ∀ v ∈ after, v.WellFormed) :
    Option.Rel Json.Equal (applyChanges before changes) after := by
  cases h with
  | whole kinds => simpa [applyChanges] using Json.rel_equal_self hafter
  | @members changes old new names exact =>
    have hold := (Json.wellFormed_obj_iff.mp (hbefore _ rfl)).1
    rw [applyChanges_obj fun c hc => ((exact c).mp hc).1]
    refine .some (.obj fun key => ?_)
    by_cases hkey : key ∈ changes.map (·.field)
    · obtain ⟨c, hc, rfl⟩ := List.mem_map.mp hkey
      rw [value?_foldl_applyTo hold names hc, ((exact c).mp hc).2.1]
      exact Json.rel_equal_self fun _ => (hafter _ rfl).of_value?
    · rw [value?_foldl_applyTo_of_notMem hold hkey]
      -- the member would be named if its values were not equal
      by_contra hrel
      have hc := (exact ⟨key, old.value? key, new.value? key⟩).mpr ⟨rfl, rfl, hrel⟩
      exact hkey (List.mem_map_of_mem hc)

/-- Making the changes between two elements to the first one gives the second one. -/
theorem rel_applyChanges_diffElement (hbefore : ∀ v ∈ before, v.WellFormed)
    (hafter : ∀ v ∈ after, v.WellFormed) :
    Option.Rel Json.Equal (applyChanges before (diffElement before after)) after := by
  by_cases hnil : diffElement before after = []
  · have hrel := (diffElement_eq_nil_iff hbefore hafter).mp hnil
    rwa [hnil, applyChanges_nil]
  · exact (describes_diffElement hbefore hafter hnil).rel_applyChanges hbefore hafter

/-! ### Arrays -/

namespace RecordDiff

/-- The changes listed for an index. -/
def changesAt (d : RecordDiff) (i : Nat) : List FieldChange :=
  ((d.packages.find? fun p => p.index = i).map (·.changes)).getD []

/-- As many indices as an array has, and those that are listed. -/
def reach (d : RecordDiff) (packages : List Json) : Nat :=
  (d.packages.map (·.index + 1)).foldr max packages.length

/-- An array with the listed changes made to it; elements that are absent after them are left
out. -/
def apply (d : RecordDiff) (packages : List Json) : List Json :=
  (List.range (d.reach packages)).filterMap fun i => applyChanges packages[i]? (d.changesAt i)

/-- The differences are the list of all edits between two arrays: the indices of the elements that
are not equal, in order, each with changes that describe them. Making the changes to the first array
gives the second one. -/
structure Exact (d : RecordDiff) (id : String) (a b : List Json) : Prop where
  recordId : d.recordId = id
  increasing : (d.packages.map (·.index)).Pairwise (· < ·)
  mem_iff : ∀ i : Nat, i ∈ d.packages.map (·.index) ↔
    i < max a.length b.length ∧ ¬ Option.Rel Json.Equal a[i]? b[i]?
  describes : ∀ p ∈ d.packages, Describes p.changes a[p.index]? b[p.index]?
  apply : (Json.arr (d.apply a)).Equal (.arr b)

end RecordDiff

@[simp] theorem mem_keep_iff {i : Nat} {p : PackageDiff} :
    p ∈ diffElements.keep i changes ↔ changes ≠ [] ∧ p = ⟨i, changes⟩ := by
  rw [diffElements.keep]
  cases changes <;> simp

theorem flatMap_range_succ {α : Type} (n : Nat) (f : Nat → List α) :
    (List.range (n + 1)).flatMap f = f 0 ++ (List.range n).flatMap fun k => f (k + 1) := by
  rw [List.range_succ_eq_map, List.flatMap_cons, List.flatMap_map]

/-- The differences of two lists, index by index. -/
theorem diffElements_eq (i : Nat) (a b : List Json) :
    diffElements i a b = (List.range (max a.length b.length)).flatMap fun k =>
      diffElements.keep (i + k) (diffElement a[k]? b[k]?) := by
  fun_induction diffElements i a b with
  | case1 => rfl
  | case2 i x a ih =>
    rw [ih, List.length_cons, List.length_nil, Nat.max_zero, Nat.max_zero, flatMap_range_succ]
    simp [Nat.add_assoc, Nat.add_comm 1]
  | case3 i y b ih =>
    rw [ih, List.length_cons, List.length_nil, Nat.zero_max, Nat.zero_max, flatMap_range_succ]
    simp [Nat.add_assoc, Nat.add_comm 1]
  | case4 i x a y b ih =>
    rw [ih, List.length_cons, List.length_cons, Nat.succ_max_succ, flatMap_range_succ]
    simp [Nat.add_assoc, Nat.add_comm 1]

theorem wellFormed_of_getElem? (ha : ∀ v ∈ a, v.WellFormed) {i : Nat} :
    ∀ v ∈ a[i]?, v.WellFormed := fun v hv => ha v (List.mem_of_getElem? hv)

/-- Behind both lists there is nothing that could differ. -/
theorem lt_max_of_diffElement_ne_nil {i : Nat} (h : diffElement a[i]? b[i]? ≠ []) :
    i < max a.length b.length := by
  by_contra hover
  have ha : a[i]? = none := List.getElem?_eq_none (by omega)
  have hb : b[i]? = none := List.getElem?_eq_none (by omega)
  rw [ha, hb] at h
  exact h rfl

/-- What is listed for an index. -/
theorem mem_diffElements_iff {p : PackageDiff} : p ∈ diffElements 0 a b ↔
    p.changes = diffElement a[p.index]? b[p.index]? ∧ p.changes ≠ [] := by
  obtain ⟨i, changes⟩ := p
  simp only [diffElements_eq, List.mem_flatMap, List.mem_range, Nat.zero_add, mem_keep_iff,
    PackageDiff.mk.injEq]
  constructor
  · rintro ⟨k, -, hne, rfl, rfl⟩
    exact ⟨rfl, hne⟩
  · rintro ⟨rfl, hne⟩
    exact ⟨i, lt_max_of_diffElement_ne_nil hne, hne, rfl, rfl⟩

theorem pairwise_index_diffElements (a b : List Json) :
    ((diffElements 0 a b).map (·.index)).Pairwise (· < ·) := by
  rw [diffElements_eq, List.pairwise_map, List.pairwise_flatMap]
  constructor
  · intro k _
    rw [diffElements.keep]
    split
    · exact .nil
    · exact List.pairwise_singleton _ _
  · refine List.pairwise_lt_range.imp fun {k l} hlt p hp q hq => ?_
    obtain ⟨-, rfl⟩ := mem_keep_iff.mp hp
    obtain ⟨-, rfl⟩ := mem_keep_iff.mp hq
    simpa using hlt

/-- Lists have no differences when they are equal at every index. -/
theorem diffElements_eq_nil_iff (ha : ∀ v ∈ a, v.WellFormed) (hb : ∀ v ∈ b, v.WellFormed) :
    diffElements 0 a b = [] ↔ List.Forall₂ Json.Equal a b := by
  have hitem : ∀ i : Nat, diffElement a[i]? b[i]? = [] ↔ Option.Rel Json.Equal a[i]? b[i]? :=
    fun i => diffElement_eq_nil_iff (wellFormed_of_getElem? ha) (wellFormed_of_getElem? hb)
  rw [Json.forall₂_equal_iff, List.eq_nil_iff_forall_not_mem]
  constructor
  · intro h i
    rw [← hitem i]
    by_contra hne
    exact h ⟨i, _⟩ (mem_diffElements_iff.mpr ⟨rfl, hne⟩)
  · intro h p hp
    obtain ⟨hchanges, hne⟩ := mem_diffElements_iff.mp hp
    rw [hchanges] at hne
    exact hne ((hitem _).mpr (h _))

/-! ### Making the changes of an array -/

namespace RecordDiff

variable {d : RecordDiff}

theorem changesAt_eq (hd : d.packages = diffElements 0 a b) (i : Nat) :
    d.changesAt i = diffElement a[i]? b[i]? := by
  rw [changesAt, hd]
  cases hfind : (diffElements 0 a b).find? fun p => p.index = i with
  | some p =>
    have hindex : p.index = i := by simpa using List.find?_some hfind
    rw [Option.map_some, Option.getD_some, ← hindex]
    exact (mem_diffElements_iff.mp (List.mem_of_find?_eq_some hfind)).1
  | none =>
    rw [List.find?_eq_none] at hfind
    by_contra hne
    have hmem : ⟨i, diffElement a[i]? b[i]?⟩ ∈ diffElements 0 a b :=
      mem_diffElements_iff.mpr ⟨rfl, Ne.symm hne⟩
    exact hfind _ hmem (by simp)

theorem le_foldr_max (l : List Nat) (n : Nat) : n ≤ l.foldr max n ∧ ∀ k ∈ l, k ≤ l.foldr max n := by
  induction l with
  | nil => simp
  | cons m l ih =>
    rw [List.foldr_cons, List.forall_mem_cons]
    refine ⟨Nat.le_trans ih.1 (Nat.le_max_right _ _), Nat.le_max_left _ _, fun k hk => ?_⟩
    exact Nat.le_trans (ih.2 k hk) (Nat.le_max_right _ _)

/-- The listed indices reach to the end of both arrays. -/
theorem length_le_reach (hd : d.packages = diffElements 0 a b) : b.length ≤ d.reach a := by
  obtain ⟨hlength, hlisted⟩ := le_foldr_max (d.packages.map (·.index + 1)) a.length
  rcases Nat.lt_or_ge a.length b.length with hlt | hge
  · -- the last element of the second array is listed
    obtain ⟨n, hn⟩ := Nat.exists_eq_succ_of_ne_zero (Nat.ne_zero_of_lt hlt)
    have hnone : a[n]? = none := List.getElem?_eq_none (by omega)
    have hmem : ⟨n, diffElement a[n]? b[n]?⟩ ∈ d.packages := by
      rw [hd, mem_diffElements_iff]
      refine ⟨rfl, ?_⟩
      have hsome : b[n]? = some b[n] := List.getElem?_eq_getElem (by omega)
      rw [hnone, hsome]
      exact List.cons_ne_nil _ _
    rw [hn]
    exact hlisted _ (List.mem_map_of_mem hmem)
  · exact Nat.le_trans hge hlength

theorem filterMap_getElem?_range {n : Nat} (h : b.length ≤ n) :
    (List.range n).filterMap (fun i => b[i]?) = b := by
  induction b generalizing n with
  | nil => simp
  | cons y b ih =>
    obtain ⟨n, rfl⟩ := Nat.exists_eq_succ_of_ne_zero (Nat.ne_zero_of_lt h)
    rw [List.length_cons] at h
    rw [List.range_succ_eq_map, List.filterMap_cons, List.filterMap_map]
    exact congrArg (y :: ·) (ih (by omega))

/-- **Making the listed changes to the first array gives the second one.** -/
theorem equal_apply (ha : ∀ v ∈ a, v.WellFormed) (hb : ∀ v ∈ b, v.WellFormed)
    (hd : d.packages = diffElements 0 a b) : (Json.arr (d.apply a)).Equal (.arr b) := by
  rw [Json.equal_arr_iff, apply]
  conv => rhs; rw [← filterMap_getElem?_range (length_le_reach hd)]
  refine List.rel_filterMap (R := Eq) ?_ (List.forall₂_same.mpr fun _ _ => rfl)
  rintro i _ rfl
  dsimp only
  rw [changesAt_eq hd]
  exact rel_applyChanges_diffElement (wellFormed_of_getElem? ha) (wellFormed_of_getElem? hb)

end RecordDiff

theorem diffPackages_eq_none_iff :
    diffPackages id (.arr a) (.arr b) = none ↔ diffElements 0 a b = [] := by
  rw [diffPackages, Json.items, Json.items]
  cases diffElements 0 a b <;> simp

theorem packages_of_diffPackages {d : RecordDiff}
    (h : diffPackages id (.arr a) (.arr b) = some d) : d = ⟨id, diffElements 0 a b⟩ := by
  rw [diffPackages, Json.items, Json.items] at h
  split at h
  · cases h
  · exact (Option.some.inj h).symm

/-- **Differences are exact.** There are none just when the two arrays are equal as values, and
otherwise they are the list of all edits between them. -/
theorem diffPackages_exact (ha : (Json.arr a).WellFormed) (hb : (Json.arr b).WellFormed)
    (id : String) :
    (diffPackages id (.arr a) (.arr b) = none ↔ (Json.arr a).Equal (.arr b)) ∧
      ∀ d, diffPackages id (.arr a) (.arr b) = some d → d.Exact id a b := by
  rw [Json.wellFormed_arr_iff] at ha hb
  constructor
  · rw [diffPackages_eq_none_iff, diffElements_eq_nil_iff ha hb, Json.equal_arr_iff]
  · intro d hd
    obtain rfl := packages_of_diffPackages hd
    refine ⟨rfl, pairwise_index_diffElements a b, fun i => ?_, fun p hp => ?_,
      RecordDiff.equal_apply ha hb rfl⟩
    · rw [← diffElement_eq_nil_iff (wellFormed_of_getElem? ha) (wellFormed_of_getElem? hb),
        List.mem_map]
      constructor
      · rintro ⟨p, hp, rfl⟩
        obtain ⟨hchanges, hne⟩ := mem_diffElements_iff.mp hp
        rw [hchanges] at hne
        exact ⟨lt_max_of_diffElement_ne_nil hne, hne⟩
      · rintro ⟨-, hne⟩
        exact ⟨⟨i, _⟩, mem_diffElements_iff.mpr ⟨rfl, hne⟩, rfl⟩
    · obtain ⟨hchanges, hne⟩ := mem_diffElements_iff.mp hp
      rw [hchanges] at hne ⊢
      exact describes_diffElement (wellFormed_of_getElem? ha) (wellFormed_of_getElem? hb) hne

/-- An image that is to lose its version, a text, and a number. -/
def olderEntries : List Json :=
  [.obj [("version", .str "1"), ("identifier", .str "x")], .str "note", .num (.int 1)]

/-- The image with its version in the name and a member named like a whole element, and the same
text. -/
def newerEntries : List Json :=
  [.obj [("identifier", .str "x:1"), (".", .null)], .str "note"]

theorem diffPackages_exact_newerEntries :
    (Json.arr olderEntries).WellFormed ∧ (Json.arr newerEntries).WellFormed ∧
      ∃ d, diffPackages "r" (.arr olderEntries) (.arr newerEntries) = some d ∧
        d.packages.map (·.index) = [0, 2] ∧ d.Exact "r" olderEntries newerEntries := by
  have holder : (Json.arr olderEntries).WellFormed := by
    simp [olderEntries, Json.Members.keys, Json.WellFormed.str, Json.WellFormed.num]
  have hnewer : (Json.arr newerEntries).WellFormed := by
    simp [newerEntries, Json.Members.keys, Json.WellFormed.str, Json.WellFormed.null]
  have hdiff : diffPackages "r" (.arr olderEntries) (.arr newerEntries) =
      some ⟨"r", [⟨0, [⟨"version", some (.str "1"), none⟩,
        ⟨"identifier", some (.str "x"), some (.str "x:1")⟩, ⟨".", none, some .null⟩]⟩,
        ⟨2, [⟨".", some (.num (.int 1)), none⟩]⟩]⟩ := by cbv
  exact ⟨holder, hnewer, _, hdiff, rfl, (diffPackages_exact holder hnewer "r").2 _ hdiff⟩

end Catalog
