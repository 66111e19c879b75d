import Catalog.Proofs.Canonical.Bounded
import Catalog.Proofs.Migration.Steps
import Catalog.Proofs.Record.Window
import Catalog.Proofs.Table
import Catalog.Record.Memory

/-!
# Laws of records in memory

The table of a store in memory is sorted, so each record is found under its id and the pending
writes of a transaction change just the records they name.

## Main definitions

* `MemoryStore.Valid` — the table is sorted and its documents are well-formed.
* `canonicalizeAt` — a table with the documents at some ids made canonical.

## Main results

* `MemoryStore.valid_ofRecords`, `MemoryStore.Valid.insert`, `MemoryStore.Valid.canonicalizeAt` —
  stores are valid.
* `MemoryStore.applyWrites_replacements` — **committing what was planned makes the planned records
  canonical**, and no other.
-/

namespace Catalog

open Json (Members)

/-! ### Canonical documents at some ids -/

section

variable {t : Table Json} {ids ids' : List String} {id key : String} {d : Json}

/-- The table with the documents at the ids made canonical. -/
def canonicalizeAt (ids : List String) (t : Table Json) : Table Json :=
  t.map fun e => (e.1, if e.1 ∈ ids then canonicalizeDocument e.2 else e.2)

@[simp] theorem canonicalizeAt_nil : canonicalizeAt [] t = t := by
  simp [canonicalizeAt]

@[simp] theorem keys_canonicalizeAt : (canonicalizeAt ids t).keys = t.keys := by
  simp [canonicalizeAt, Table.keys]

theorem sorted_canonicalizeAt (h : t.Sorted) (ids : List String) :
    (canonicalizeAt ids t).Sorted :=
  h.map fun id d => if id ∈ ids then canonicalizeDocument d else d

theorem get?_canonicalizeAt : (canonicalizeAt ids t).get? key =
    (t.get? key).map fun d => if key ∈ ids then canonicalizeDocument d else d :=
  Table.get?_map t (fun id d => if id ∈ ids then canonicalizeDocument d else d) key

/-- Making documents canonical in two steps, no document in both of them. -/
theorem canonicalizeAt_canonicalizeAt (h : ∀ id ∈ ids', id ∉ ids) :
    canonicalizeAt ids' (canonicalizeAt ids t) = canonicalizeAt (ids ++ ids') t := by
  rw [canonicalizeAt, canonicalizeAt, canonicalizeAt, List.map_map]
  refine List.map_congr_left fun e _ => Prod.ext rfl ?_
  by_cases hids' : e.1 ∈ ids'
  · simp [hids', h _ hids']
  · simp [hids']

/-- A canonical document stays as it is. -/
theorem canonicalizeAt_singleton_eq_self (ht : t.Sorted) (hd : t.get? id = some d)
    (hcanonical : canonicalizeDocument d = d) : canonicalizeAt [id] t = t := by
  conv => rhs; rw [← List.map_id t]
  refine List.map_congr_left fun e he => Prod.ext rfl ?_
  by_cases heq : e.1 = id
  · have hdoc : some d = some e.2 := by
      rw [← hd, ← heq]
      exact ht.get?_of_mem he
    rw [id_eq, if_pos (List.mem_singleton.mpr heq), ← Option.some.inj hdoc, hcanonical]
  · rw [id_eq, if_neg fun hmem => heq (List.mem_singleton.mp hmem)]

/-- Putting the canonical document in its place. -/
theorem insert_eq_canonicalizeAt_singleton (ht : t.Sorted) (hd : t.get? id = some d) :
    t.insert id (canonicalizeDocument d) = canonicalizeAt [id] t := by
  rw [ht.insert_eq_map hd]
  refine List.map_congr_left fun e he => ?_
  by_cases heq : e.1 = id
  · have hdoc : some d = some e.2 := by
      rw [← hd, ← heq]
      exact ht.get?_of_mem he
    rw [if_pos heq, if_pos (List.mem_singleton.mpr heq), Option.some.inj hdoc, heq]
  · rw [if_neg heq, if_neg fun hmem => heq (List.mem_singleton.mp hmem)]

end

namespace MemoryStore

variable {s : MemoryStore} {t : Table Json} {b : List Record} {r : Record} {ids : List String}

/-- The table is sorted and its documents are well-formed. -/
structure Valid (s : MemoryStore) : Prop where
  sorted : s.documents.Sorted
  wellFormed : ∀ e ∈ s.documents, e.2.WellFormed

/-- A store that is built from records is valid. -/
theorem valid_ofRecords {records : List Record} (h : ∀ r ∈ records, r.document.WellFormed) :
    (ofRecords records).Valid where
  sorted := Table.sorted_ofList _
  wellFormed := by
    intro e he
    obtain ⟨r, hr, rfl⟩ := List.mem_map.mp (Table.mem_of_mem_ofList he)
    exact h r hr

/-- A valid store stays so when a record is put into it. -/
theorem Valid.insert (hs : s.Valid) (hr : r.document.WellFormed) : (s.insert r).Valid where
  sorted := hs.sorted.insert _ _
  wellFormed := by
    intro e he
    rcases Table.eq_or_mem_of_mem_insert he with rfl | hmem
    · exact hr
    · exact hs.wellFormed e hmem

/-- A valid store stays so when some of its documents are made canonical. -/
theorem Valid.canonicalizeAt (hs : s.Valid) {s' : MemoryStore}
    (h : s'.documents = canonicalizeAt ids s.documents) : s'.Valid where
  sorted := by
    rw [h]
    exact sorted_canonicalizeAt hs.sorted ids
  wellFormed := by
    rw [h]
    intro e he
    obtain ⟨d, hd, rfl⟩ := List.mem_map.mp he
    have hwf := hs.wellFormed d hd
    dsimp only
    split
    · exact wellFormed_canonicalizeDocument hwf
    · exact hwf

/-! ### The records of a store -/

theorem mem_records_iff : r ∈ s.records ↔ (r.id, r.document) ∈ s.documents := by
  rw [records, List.mem_map]
  constructor
  · rintro ⟨e, he, rfl⟩
    exact he
  · intro h
    exact ⟨_, h, rfl⟩

theorem pairwise_records (hs : s.documents.Sorted) :
    s.records.Pairwise fun a b => a.id < b.id := by
  rw [records, List.pairwise_map]
  exact hs

theorem get?_of_mem_records (hs : s.documents.Sorted) (hr : r ∈ s.records) :
    s.documents.get? r.id = some r.document :=
  hs.get?_of_mem (mem_records_iff.mp hr)

theorem Valid.wellFormed_of_mem_records (hs : s.Valid) (hr : r ∈ s.records) :
    r.document.WellFormed :=
  hs.wellFormed _ (mem_records_iff.mp hr)

/-- The records of a store with canonical documents at some ids. -/
theorem records_canonicalizeAt {s' : MemoryStore}
    (h : s'.documents = canonicalizeAt ids s.documents) :
    s'.records = s.records.map (Record.canonicalizeIn ids) := by
  rw [records, records, h, canonicalizeAt, List.map_map, List.map_map]
  refine List.map_congr_left fun e _ => ?_
  simp only [Function.comp_apply, Record.canonicalizeIn, Record.canonicalize]
  by_cases he : e.1 ∈ ids <;> simp [he]

/-- The ids of the records are all different. -/
theorem nodup_ids_records (hs : s.documents.Sorted) : (s.records.map (·.id)).Nodup := by
  rw [List.nodup_iff_pairwise_ne, List.pairwise_map]
  exact (pairwise_records hs).imp String.ne_of_lt

theorem nodup_ids_window (hs : s.documents.Sorted) (cursor : Option String) :
    ((window s.records cursor none).map (·.id)).Nodup :=
  (nodup_ids_records hs).sublist (window_sublist.map _)

/-- The window after the first part of another is its rest, also when records of the first part
were made canonical in the meantime. -/
theorem window_after_canonicalizeAt (hs : s.documents.Sorted) {s' : MemoryStore}
    {cursor : Option String} {front rest : List Record} {last : Record}
    (hsplit : window s.records cursor none = front ++ rest) (hlast : front.getLast? = some last)
    (hids : ∀ id ∈ ids, id ∈ front.map (·.id))
    (hdocuments : s'.documents = canonicalizeAt ids s.documents) :
    window s'.records (some last.id) none = rest := by
  have hnodup := nodup_ids_window hs cursor
  rw [hsplit, List.map_append, List.nodup_append] at hnodup
  rw [records_canonicalizeAt hdocuments, window_map_canonicalizeIn,
    window_after (pairwise_records hs) hsplit hlast]
  -- what was made canonical is in the first part, and no id occurs twice
  refine map_canonicalizeIn_eq_self fun r hr hin => ?_
  exact hnodup.2.2 _ (hids _ hin) _ (List.mem_map_of_mem hr) rfl

/-! ### Commits -/

/-- **Committing what was planned makes the planned records canonical**, and no other. -/
theorem applyWrites_replacements (ht : t.Sorted) (hids : (b.map (·.id)).Nodup)
    (hwf : ∀ r ∈ b, r.document.WellFormed) (hmem : ∀ r ∈ b, t.get? r.id = some r.document) :
    applyWrites t ((replacements b).map fun p => (p.id, p.packages)) =
      (canonicalizeAt (b.map (·.id)) t, .ok ()) := by
  induction b generalizing t with
  | nil => simp [replacements, applyWrites]
  | cons r b ih =>
    obtain ⟨hnew, hids⟩ := List.nodup_cons.mp hids
    obtain ⟨hr, hmem⟩ := List.forall_mem_cons.mp hmem
    obtain ⟨hwfr, hwf⟩ := List.forall_mem_cons.mp hwf
    have hsplit : canonicalizeAt (b.map (·.id)) (canonicalizeAt [r.id] t) =
        canonicalizeAt ((r :: b).map (·.id)) t := by
      refine canonicalizeAt_canonicalizeAt fun id hid => ?_
      rw [List.mem_singleton]
      rintro rfl
      exact hnew hid
    -- the records after the first one are still as they were
    have hlater : ∀ q ∈ b, (canonicalizeAt [r.id] t).get? q.id = some q.document := by
      intro q hq
      have hne : q.id ∉ [r.id] := by
        rw [List.mem_singleton]
        intro heq
        exact hnew (List.mem_map.mpr ⟨q, hq, heq⟩)
      rw [get?_canonicalizeAt, hmem q hq, Option.map_some, if_neg hne]
    have hrest := ih (sorted_canonicalizeAt ht [r.id]) hids hwf hlater
    rw [replacements_cons, ← hsplit]
    cases hreplacement : r.replacement? with
    | none =>
      have hfixed := Record.canonicalizeDocument_of_replacement?_eq_none hwfr hreplacement
      rw [canonicalizeAt_singleton_eq_self ht hr hfixed] at hrest ⊢
      exact hrest
    | some v =>
      obtain ⟨ms, hdoc, hcanonical⟩ := Record.canonicalize_of_replacement? hreplacement
      have hinsert := insert_eq_canonicalizeAt_singleton ht hr
      rw [hcanonical] at hinsert
      rw [← hinsert] at hrest ⊢
      rw [Option.toList_some, List.map_singleton, List.singleton_append, List.map_cons, applyWrites,
        hr, hdoc]
      exact hrest

end MemoryStore

end Catalog
