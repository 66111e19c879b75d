import Catalog.Proofs.Record.Canonical

/-!
# Windows over records

A store hands out its records window by window, each one after the last id of the window before.
Where the ids are strictly increasing, the windows of a fixed size are the consecutive blocks of the
records with packages, whatever was rewritten in the blocks before.

## Main definitions

* `blocks` — a list cut into consecutive blocks.
* `Record.canonicalizeIn` — records with ids in a list made canonical.

## Main results

* `blocks_of_ne_nil` — the first block, and the blocks after it.
* `flatten_blocks` — the blocks put together.
* `window_after` — **the window after the last record of a part is the rest.**
* `window_map_canonicalizeIn` — windows over rewritten records.
* `exists_before_of_mem_window`, `window_of_filter_eq` — windows over records that share ids.
-/

namespace Catalog

/-! ### Blocks -/

section

variable {α : Type} {n : Nat} {xs : List α}

/-- Consecutive blocks of `n` items each, of which the last one may be shorter. -/
def blocks (n : Nat) (xs : List α) : List (List α) :=
  (List.range ((xs.length + n - 1) / n)).map fun k => (xs.drop (k * n)).take n

@[simp] theorem blocks_nil : blocks n ([] : List α) = [] := by
  have hcount : (0 + n - 1) / n = 0 := by
    rcases Nat.eq_zero_or_pos n with rfl | hn
    · rfl
    · exact Nat.div_eq_of_lt (by omega)
  rw [blocks, List.length_nil, hcount]
  rfl

/-- The first block, and the blocks after it. -/
theorem blocks_of_ne_nil (hn : 0 < n) (hxs : xs ≠ []) :
    blocks n xs = xs.take n :: blocks n (xs.drop n) := by
  have hlength := List.length_pos_iff.mpr hxs
  have hcount : (xs.length + n - 1) / n = ((xs.drop n).length + n - 1) / n + 1 := by
    rw [List.length_drop]
    rcases Nat.lt_or_ge xs.length n with hlt | hge
    · rw [Nat.div_eq_of_lt (show xs.length - n + n - 1 < n by omega)]
      exact Nat.div_eq_of_lt_le (by omega) (by omega)
    · rw [← Nat.add_div_right _ hn]
      congr 1
      omega
  rw [blocks, hcount, List.range_succ_eq_map, List.map_cons, List.map_map, blocks, Nat.zero_mul,
    List.drop_zero]
  congr 1
  refine List.map_congr_left fun k _ => ?_
  rw [Function.comp_apply, List.drop_drop, Nat.succ_mul, Nat.add_comm]

/-- The blocks of a list, one after another, are the list. -/
theorem flatten_blocks (hn : 0 < n) (xs : List α) : (blocks n xs).flatten = xs := by
  induction hlength : xs.length using Nat.strongRecOn generalizing xs with
  | ind length ih =>
    by_cases hxs : xs = []
    · simp [hxs]
    · have hpos := List.length_pos_iff.mpr hxs
      have hshorter : (xs.drop n).length < length := by
        rw [List.length_drop]
        omega
      rw [blocks_of_ne_nil hn hxs, List.flatten_cons, ih _ hshorter _ rfl, List.take_append_drop]

/-- A block by its number. -/
theorem getElem?_blocks (hn : 0 < n) {k : Nat} (h : xs.drop (k * n) ≠ []) :
    (blocks n xs)[k]? = some ((xs.drop (k * n)).take n) := by
  have hlt : k * n < xs.length := by
    rwa [ne_eq, List.drop_eq_nil_iff, Nat.not_le] at h
  have hk : k < (xs.length + n - 1) / n := by
    rw [Nat.lt_iff_add_one_le, Nat.le_div_iff_mul_le hn, Nat.succ_mul]
    omega
  rw [blocks, List.getElem?_map, List.getElem?_range hk, Option.map_some]

theorem mem_of_mem_blocks (hn : 0 < n) {b : List α} {x : α} (hb : b ∈ blocks n xs) (hx : x ∈ b) :
    x ∈ xs := by
  rw [← flatten_blocks hn xs]
  exact List.mem_flatten_of_mem hb hx

end

/-! ### Windows -/

variable {records front rest : List Record} {cursor : Option String} {r last : Record}
  {limit : Option Nat} {ids : List String}

theorem window_some (n : Nat) :
    window records cursor (some n) = (window records cursor none).take n := rfl

theorem mem_window_iff : r ∈ window records cursor none ↔
    r ∈ records ∧ r.packages?.isSome ∧ isAfter cursor r.id = true := by
  simp [window]

theorem window_sublist : (window records cursor limit).Sublist records := by
  cases limit with
  | none => exact List.filter_sublist
  | some n => exact (List.take_sublist n _).trans List.filter_sublist

/-- What comes after a record comes after every cursor before the record. -/
theorem isAfter_of_isAfter (hlast : isAfter cursor last.id = true)
    (h : isAfter (some last.id) r.id = true) : isAfter cursor r.id = true := by
  cases cursor with
  | none => rfl
  | some c =>
    simp only [isAfter, decide_eq_true_eq] at hlast h ⊢
    exact String.lt_trans hlast h

/-- **The window after the last record of a part is the rest.** -/
theorem window_after (hsorted : records.Pairwise fun a b => a.id < b.id)
    (h : window records cursor none = front ++ rest) (hlast : front.getLast? = some last) :
    window records (some last.id) none = rest := by
  have hmem : last ∈ front ++ rest := List.mem_append_left _ (List.mem_of_getLast? hlast)
  have hcursor : isAfter cursor last.id = true := by
    rw [← h] at hmem
    exact (mem_window_iff.mp hmem).2.2
  have hwindow : window records (some last.id) none =
      (front ++ rest).filter fun r => isAfter (some last.id) r.id := by
    rw [← h, window, window, List.filter_filter]
    refine List.filter_congr fun r _ => ?_
    by_cases hafter : isAfter (some last.id) r.id = true
    · simp [hafter, isAfter_of_isAfter hcursor hafter]
    · simp [hafter]
  have hpairwise : (front ++ rest).Pairwise fun a b => a.id < b.id := by
    rw [← h]
    exact hsorted.sublist window_sublist
  obtain ⟨hfront, -, hcross⟩ := List.pairwise_append.mp hpairwise
  -- no record of the part comes after its last one, and all others do
  have hleft : front.filter (fun r => isAfter (some last.id) r.id) = [] := by
    obtain ⟨init, rfl⟩ := List.getLast?_eq_some_iff.mp hlast
    rw [List.filter_eq_nil_iff]
    intro r hr
    simp only [isAfter, decide_eq_true_eq]
    rcases List.mem_append.mp hr with hinit | hlast
    · exact String.lt_asymm
        ((List.pairwise_append.mp hfront).2.2 r hinit last (List.mem_singleton.mpr rfl))
    · rw [List.mem_singleton.mp hlast]
      exact String.lt_irrefl _
  have hright : rest.filter (fun r => isAfter (some last.id) r.id) = rest := by
    rw [List.filter_eq_self]
    intro r hr
    simp only [isAfter, decide_eq_true_eq]
    exact hcross last (List.mem_of_getLast? hlast) r hr
  rw [hwindow, List.filter_append, hleft, hright, List.nil_append]

/-! ### Rewritten records -/

/-- The record, made canonical if its id is in the list. -/
def Record.canonicalizeIn (ids : List String) (r : Record) : Record :=
  if r.id ∈ ids then r.canonicalize else r

@[simp] theorem Record.canonicalizeIn_id (ids : List String) (r : Record) :
    (r.canonicalizeIn ids).id = r.id := by
  rw [canonicalizeIn]
  split <;> rfl

@[simp] theorem Record.isSome_packages?_canonicalizeIn (ids : List String) (r : Record) :
    (r.canonicalizeIn ids).packages?.isSome = r.packages?.isSome := by
  rw [canonicalizeIn]
  split <;> simp

/-- Records with other ids stay as they are. -/
theorem map_canonicalizeIn_eq_self (h : ∀ r ∈ records, r.id ∉ ids) :
    records.map (Record.canonicalizeIn ids) = records := by
  conv => rhs; rw [← List.map_id records]
  exact List.map_congr_left fun r hr => if_neg (h r hr)

/-- A window over records that were rewritten holds the records of the window before, rewritten. -/
theorem window_map_canonicalizeIn : window (records.map (Record.canonicalizeIn ids)) cursor none =
    (window records cursor none).map (Record.canonicalizeIn ids) := by
  rw [window, window, List.filter_map]
  congr 1
  refine List.filter_congr fun r _ => ?_
  simp

/-! ### Sorted records that share ids -/

variable {L K : List Record}

theorem isAfter_of_mem_window (h : r ∈ window K cursor limit) : isAfter cursor r.id = true := by
  cases limit with
  | none => exact (mem_window_iff.mp h).2.2
  | some n => exact (mem_window_iff.mp (List.mem_of_mem_take h)).2.2

/-- In sorted records none has a greater id than the last one. -/
theorem le_of_getLast? {last : Record} (hL : L.Pairwise fun a b => a.id ≤ b.id)
    (hlast : L.getLast? = some last) (hr : r ∈ L) : r.id ≤ last.id := by
  obtain ⟨front, rfl⟩ := List.getLast?_eq_some_iff.mp hlast
  rcases List.mem_append.mp hr with hmem | hmem
  · exact (List.pairwise_append.mp hL).2.2 r hmem last (List.mem_singleton.mpr rfl)
  · obtain rfl := List.mem_singleton.mp hmem
    exact String.le_refl _

/-- In sorted records none has a smaller id than the first one. -/
theorem le_of_head? {first : Record} (hL : L.Pairwise fun a b => a.id ≤ b.id)
    (hfirst : L.head? = some first) (hr : r ∈ L) : first.id ≤ r.id := by
  obtain ⟨back, rfl⟩ := List.head?_eq_some_iff.mp hfirst
  rcases List.mem_cons.mp hr with rfl | hmem
  · exact String.le_refl _
  · exact (List.pairwise_cons.mp hL).1 r hmem

/-- A part of records with increasing ids has all of them from its first id to its last. -/
theorem mem_part_iff {front b rest : List Record} {first last : Record}
    (h : (front ++ b ++ rest).Pairwise fun q r => q.id < r.id) (hfirst : b.head? = some first)
    (hlast : b.getLast? = some last) (hr : r ∈ front ++ b ++ rest) :
    r ∈ b ↔ first.id ≤ r.id ∧ r.id ≤ last.id := by
  obtain ⟨hfront, -, hrest⟩ := List.pairwise_append.mp h
  obtain ⟨-, hb, hbefore⟩ := List.pairwise_append.mp hfront
  constructor
  · intro hr
    have hle : b.Pairwise fun q r => q.id ≤ r.id :=
      hb.imp fun hlt => String.not_lt.mp (String.lt_asymm hlt)
    exact ⟨le_of_head? hle hfirst hr, le_of_getLast? hle hlast hr⟩
  · rintro ⟨hlo, hhi⟩
    rcases List.mem_append.mp hr with hr | hr
    · rcases List.mem_append.mp hr with hr | hr
      · exact absurd (hbefore r hr first (List.mem_of_head? hfirst)) (String.not_lt.mpr hlo)
      · exact hr
    · have hlastMem := List.mem_append_right front (List.mem_of_getLast? hlast)
      exact absurd (hrest last hlastMem r hr) (String.not_lt.mpr hhi)

theorem le_of_mem_window {q last : Record} (hK : K.Pairwise fun a b => a.id ≤ b.id)
    (hlast : (window K cursor limit).getLast? = some last) (hq : q ∈ window K cursor limit) :
    q.id ≤ last.id :=
  le_of_getLast? (hK.sublist window_sublist) hlast hq

/-- What comes before a record of a window among those with its id: the malformed ones of these are
in the window as well. -/
theorem exists_before_of_mem_window {q : Record} (hq : q ∈ window L cursor limit) :
    ∃ before after, L.filter (fun p => p.id = q.id) = before ++ q :: after ∧
      ∀ p ∈ before, p.IsMalformed → p ∈ window L cursor limit := by
  obtain ⟨rest, hrest⟩ : ∃ rest, window L cursor none = window L cursor limit ++ rest := by
    cases limit with
    | none => exact ⟨[], (List.append_nil _).symm⟩
    | some n => exact ⟨_, (List.take_append_drop n _).symm⟩
  obtain ⟨front, back, hfront⟩ := List.append_of_mem hq
  rw [hfront, List.append_assoc, window] at hrest
  obtain ⟨l₁, l₂, hL, hl₁, hl₂⟩ := List.filter_eq_append_iff.mp hrest
  obtain ⟨l₃, l₄, rfl, hl₃, -, -⟩ := List.filter_eq_cons_iff.mp hl₂
  refine ⟨(l₁ ++ l₃).filter (fun p => p.id = q.id), l₄.filter (fun p => p.id = q.id), ?_, ?_⟩
  · rw [hL, ← List.append_assoc, List.filter_append, List.filter_cons_of_pos (by simp)]
  · intro p hp hmalformed
    obtain ⟨hmem, hid⟩ := List.mem_filter.mp hp
    have hafter : isAfter cursor q.id = true := by
      have hwindow : q ∈ window L cursor none := by
        rw [window, hrest]
        exact List.mem_append_right _ List.mem_cons_self
      exact (mem_window_iff.mp hwindow).2.2
    have hpasses : (p.packages?.isSome && isAfter cursor p.id) = true := by
      obtain ⟨v, hv, -⟩ := hmalformed
      rw [hv, of_decide_eq_true hid, hafter]
      rfl
    rcases List.mem_append.mp hmem with h₁ | h₃
    -- what passes before the record is in the window, as the record itself is
    · have hin : p ∈ front := by
        rw [← hl₁]
        exact List.mem_filter.mpr ⟨h₁, hpasses⟩
      rw [hfront]
      exact List.mem_append_left _ hin
    · exact absurd hpasses (hl₃ p h₃)

/-- A cursor just before an id. -/
theorem exists_cursor (hL : L.Pairwise fun a b => a.id ≤ b.id) (id : String) :
    ∃ cursor : Option String, ∀ r ∈ L, (isAfter cursor r.id = true ↔ id ≤ r.id) := by
  have hfront : (L.filter fun r => r.id < id).Pairwise fun a b => a.id ≤ b.id :=
    hL.sublist List.filter_sublist
  -- the last record before the id tells the cursor
  cases hlast : (L.filter fun r => r.id < id).getLast? with
  | none =>
    rw [List.getLast?_eq_none_iff, List.filter_eq_nil_iff] at hlast
    refine ⟨none, fun r hr => iff_of_true rfl (String.not_lt.mp fun hlt => ?_)⟩
    exact hlast r hr (decide_eq_true hlt)
  | some last =>
    have hbefore : last.id < id := by
      simpa using (List.mem_filter.mp (List.mem_of_getLast? hlast)).2
    refine ⟨some last.id, fun r hr => ?_⟩
    rw [isAfter, decide_eq_true_eq]
    constructor
    · intro hafter
      refine String.not_lt.mp fun hlt => String.not_lt.mpr ?_ hafter
      exact le_of_getLast? hfront hlast (List.mem_filter.mpr ⟨hr, decide_eq_true hlt⟩)
    · intro hle
      by_contra hafter
      exact String.not_lt.mpr (String.le_trans hle (String.not_lt.mp hafter)) hbefore

/-- Sorted records from an id on. -/
theorem filter_le_eq (hL : L.Pairwise fun a b => a.id ≤ b.id) (id : String) :
    L.filter (fun r => id ≤ r.id) =
      L.filter (fun r => r.id = id) ++ L.filter fun r => id < r.id := by
  induction L with
  | nil => rfl
  | cons r L ih =>
    obtain ⟨hr, hL⟩ := List.pairwise_cons.mp hL
    have ih := ih hL
    by_cases hlt : r.id < id
    · have hle : ¬ id ≤ r.id := fun hle => String.not_lt.mpr hle hlt
      have hgt : ¬ id < r.id := String.lt_asymm hlt
      rw [List.filter_cons_of_neg (by simpa using hle),
        List.filter_cons_of_neg (by simpa using String.ne_of_lt hlt),
        List.filter_cons_of_neg (by simpa using hgt), ih]
    · by_cases heq : r.id = id
      · rw [List.filter_cons_of_pos (by simpa using String.not_lt.mp hlt),
          List.filter_cons_of_pos (by simpa using heq),
          List.filter_cons_of_neg (by simp [heq]), ih, List.cons_append]
      · -- the records after this one have greater ids as well
        have hle : id ≤ r.id := String.not_lt.mp hlt
        have hgt : id < r.id := by
          by_contra hno
          exact heq (String.le_antisymm (String.not_lt.mp hno) hle)
        have hnone : L.filter (fun r => r.id = id) = [] := by
          rw [List.filter_eq_nil_iff]
          intro q hq hid
          rw [← of_decide_eq_true hid] at hgt
          exact String.not_lt.mpr (hr q hq) hgt
        rw [hnone, List.nil_append] at ih
        rw [List.filter_cons_of_pos (by simpa using hle),
          List.filter_cons_of_neg (by simpa using heq), hnone, List.nil_append,
          List.filter_cons_of_pos (by simpa using hgt), ih]

/-- The window in which a record gets the packages of another one. -/
theorem window_of_filter_eq {q : Record} {before after : List Record}
    (hL : L.Pairwise fun a b => a.id ≤ b.id)
    (hcursor : ∀ r ∈ L, (isAfter cursor r.id = true ↔ q.id ≤ r.id))
    (hsplit : L.filter (fun p => p.id = q.id) = before ++ q :: after)
    (hpackages : q.packages?.isSome = true) :
    window L cursor (some ((before.filter fun p => p.packages?.isSome).length + 1)) =
      before.filter (fun p => p.packages?.isSome) ++ [q] := by
  have hall : window L cursor none =
      (L.filter fun r => q.id ≤ r.id).filter fun p => p.packages?.isSome := by
    rw [window, List.filter_filter]
    refine List.filter_congr fun r hr => ?_
    rw [Bool.eq_iff_iff, Bool.and_eq_true, Bool.and_eq_true, hcursor r hr, decide_eq_true_eq]
  have hq : (q :: after).filter (fun p => p.packages?.isSome) =
      [q] ++ after.filter fun p => p.packages?.isSome := List.filter_cons_of_pos hpackages
  rw [window_some, hall, filter_le_eq hL, hsplit, List.filter_append, List.filter_append, hq,
    ← List.append_assoc, List.append_assoc (_ ++ [q])]
  refine List.take_left' ?_
  rw [List.length_append, List.length_singleton]

end Catalog
