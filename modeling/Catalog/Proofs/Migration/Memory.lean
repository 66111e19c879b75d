import Catalog.Proofs.Migration.Survey
import Catalog.Proofs.Record.Memory

/-!
# Migrations of records in memory

A live migration over a store in memory, of which some records cannot be written. In chunks, it cuts
the records with packages into consecutive blocks. A block with a malformed record, or with a
changed one that cannot be written, is rolled back and reported; all records of any other block
become canonical. Without such records, in chunks or not, all records become canonical.

## Main definitions

* `MemoryStore.refusing` — the store that refuses to write some records.
* `RollsBack` — a block is rolled back.
* `committed`, `rolledBack` — what becomes of the blocks of a run.
* `Migration.Leaves` — what blocks leave behind in the store and in the report.

## Main results

* `Migration.runChunk_refusing` — one block.
* `Migration.runChunks_induction` — what a run in chunks preserves.
* `Migration.runChunks_refusing` — the blocks one after another.
* `Migration.run_chunked_refusing` — **a run in chunks, with records that fail.**
* `Migration.run_eq_canonicalize` — **a run without records that fail.**
-/

namespace Catalog

open Json (Members)

variable {refused : List String} {s : MemoryStore} {t : Table Json} {b : List Record} {r : Record}
  {m : Migration} {planned : List Planned} {st : MigrationState MemoryStore}

/-- The store in memory with transactions that refuse to write some records. -/
def MemoryStore.refusing (refused : List String) : RecordStore MemoryStore MemoryStore.Pending :=
  Refusals.apply ⟨refused, false, false, false⟩ MemoryStore.store

/-- The store that refuses nothing is the store in memory. -/
theorem MemoryStore.refusing_nil : refusing [] = MemoryStore.store := by
  simp [refusing, Refusals.apply]

/-! ### Transactions -/

/-- The writes of a transaction in which none is refused. -/
theorem writeAll_refusing (hallowed : ∀ p ∈ planned, p.id ∉ refused)
    (hfound : ∀ p ∈ planned, (s.get? p.id).isSome) (pending : MemoryStore.Pending) :
    writeAll (MemoryStore.refusing refused) s pending planned =
      .ok (pending ++ planned.map fun p => (p.id, p.packages)) := by
  induction planned generalizing pending with
  | nil => simp [writeAll]
  | cons p planned ih =>
    obtain ⟨hp, hallowed⟩ := List.forall_mem_cons.mp hallowed
    obtain ⟨hs, hfound⟩ := List.forall_mem_cons.mp hfound
    obtain ⟨d, hd⟩ := Option.isSome_iff_exists.mp hs
    have hwrite : (MemoryStore.refusing refused).write s pending p.id p.packages =
        .ok (pending ++ [(p.id, p.packages)]) := by
      simp [MemoryStore.refusing, Refusals.apply, hp, MemoryStore.store, hd]
    rw [writeAll, hwrite]
    simp only [ih hallowed hfound, List.map_cons, List.append_assoc, List.singleton_append]

/-- The writes of a transaction in which one is refused. -/
theorem writeAll_refusing_of_mem (hfound : ∀ p ∈ planned, (s.get? p.id).isSome)
    (h : ∃ p ∈ planned, p.id ∈ refused) (pending : MemoryStore.Pending) :
    ∃ pending' e, writeAll (MemoryStore.refusing refused) s pending planned =
      .error (pending', e) := by
  induction planned generalizing pending with
  | nil => simp at h
  | cons p planned ih =>
    obtain ⟨hs, hfound⟩ := List.forall_mem_cons.mp hfound
    obtain ⟨d, hd⟩ := Option.isSome_iff_exists.mp hs
    rw [writeAll]
    by_cases hp : p.id ∈ refused
    · simp [MemoryStore.refusing, Refusals.apply, hp]
    · have hwrite : (MemoryStore.refusing refused).write s pending p.id p.packages =
          .ok (pending ++ [(p.id, p.packages)]) := by
        simp [MemoryStore.refusing, Refusals.apply, hp, MemoryStore.store, hd]
      rw [hwrite]
      exact ih hfound (by simpa [hp] using h) _

namespace Migration

/-- A live run writes what was planned, if none of it is refused. -/
theorem persist_refusing (refused : List String) (hlive : m.mode = .live)
    (hallowed : ∀ p ∈ planned, p.id ∉ refused) (hfound : ∀ p ∈ planned, (s.get? p.id).isSome)
    (hwrites : MemoryStore.applyWrites s.documents (planned.map fun p => (p.id, p.packages)) =
      (t, .ok ())) :
    m.persist (MemoryStore.refusing refused) s planned =
      (⟨t, s.writes + planned.length⟩, [], .ok planned.length) := by
  by_cases hempty : planned = []
  · subst hempty
    obtain ⟨rfl, -⟩ := Prod.mk.inj hwrites
    rw [persist_nil]
    rfl
  · have hstart : (MemoryStore.refusing refused).start s = .ok [] := rfl
    have hcommit : ∀ pending, (MemoryStore.refusing refused).commit s pending =
        MemoryStore.commit s pending := fun _ => rfl
    rw [persist_live _ _ hlive hempty]
    simp only [writeAndCommit, hstart, writeAll_refusing hallowed hfound, List.nil_append, hcommit,
      MemoryStore.commit, hwrites, List.length_map]

/-- The records with replacements are in the store. -/
theorem isSome_get?_of_mem_replacements
    (hmem : ∀ r ∈ b, s.documents.get? r.id = some r.document) :
    ∀ p ∈ replacements b, (s.get? p.id).isSome := by
  intro p hp
  obtain ⟨r, hr, -, hid⟩ := mem_replacements_iff.mp hp
  rw [MemoryStore.get?, hid, hmem r hr]
  rfl

/-- A live run makes records canonical, if none of them is refused. -/
theorem persist_replacements (refused : List String) (hlive : m.mode = .live)
    (hallowed : ∀ p ∈ replacements b, p.id ∉ refused) (hsorted : s.documents.Sorted)
    (hids : (b.map (·.id)).Nodup) (hwf : ∀ r ∈ b, r.document.WellFormed)
    (hmem : ∀ r ∈ b, s.documents.get? r.id = some r.document) :
    m.persist (MemoryStore.refusing refused) s (replacements b) =
      (⟨canonicalizeAt (b.map (·.id)) s.documents, s.writes + (replacements b).length⟩, [],
        .ok (replacements b).length) :=
  persist_refusing refused hlive hallowed (isSome_get?_of_mem_replacements hmem)
    (MemoryStore.applyWrites_replacements hsorted hids hwf hmem)

/-- A live run leaves the store as it is, if a write is refused. -/
theorem persist_refusing_of_mem (hlive : m.mode = .live)
    (hfound : ∀ p ∈ planned, (s.get? p.id).isSome) (h : ∃ p ∈ planned, p.id ∈ refused) :
    ∃ e, m.persist (MemoryStore.refusing refused) s planned = (s, [], .error e) := by
  have hne : planned ≠ [] := by
    rintro rfl
    simp at h
  obtain ⟨pending, e, hwrites⟩ := writeAll_refusing_of_mem hfound h []
  have hstart : (MemoryStore.refusing refused).start s = .ok [] := rfl
  have hrollback : (MemoryStore.refusing refused).rollback s pending = .ok () := rfl
  refine ⟨e, ?_⟩
  rw [persist_live _ _ hlive hne]
  simp only [writeAndCommit, hstart, hwrites, hrollback]

end Migration

/-! ### Blocks -/

/-- The block is rolled back: a record in it is malformed, or one that changes is refused. -/
def RollsBack (refused : List String) (b : List Record) : Prop :=
  ∃ r ∈ b, r.IsMalformed ∨ r.id ∈ refused ∧ r.Changes

instance : Decidable (RollsBack refused b) :=
  inferInstanceAs (Decidable (∃ r ∈ b, r.IsMalformed ∨ r.id ∈ refused ∧ r.Changes))

/-- The ids of the records in the blocks that are not rolled back. -/
def committed (refused : List String) (bs : List (List Record)) : List String :=
  (bs.filter fun b => ¬ RollsBack refused b).flatten.map (·.id)

/-- The blocks that are rolled back, by number and by their first and last ids; the first block has
the number given. -/
def rolledBack (refused : List String) (chunk : Nat) (bs : List (List Record)) :
    List (Nat × Option String × Option String) :=
  ((bs.zipIdx chunk).filter fun e => RollsBack refused e.1).map fun e =>
    (e.2, e.1.head?.map (·.id), e.1.getLast?.map (·.id))

/-- Where a chunk failed. -/
def ChunkFailure.place (f : ChunkFailure) : Nat × Option String × Option String :=
  (f.chunk, some f.firstId, some f.lastId)

theorem committed_cons (bs : List (List Record)) : committed refused (b :: bs) =
    committed refused [b] ++ committed refused bs := by
  by_cases h : RollsBack refused b <;> simp [committed, h]

theorem rolledBack_cons (chunk : Nat) (bs : List (List Record)) :
    rolledBack refused chunk (b :: bs) =
      rolledBack refused chunk [b] ++ rolledBack refused (chunk + 1) bs := by
  by_cases h : RollsBack refused b <;> simp [rolledBack, h]

theorem committed_singleton_subset {id : String} (h : id ∈ committed refused [b]) :
    id ∈ b.map (·.id) := by
  by_cases hb : RollsBack refused b
  · simp [committed, hb] at h
  · simpa [committed, hb] using h

/-- Where no id occurs twice, a record belongs to one block only. -/
theorem block_unique {bs : List (List Record)} (h : (bs.flatten.map (·.id)).Nodup)
    {b c : List Record} (hb : b ∈ bs) (hc : c ∈ bs) {q r : Record} (hq : q ∈ b) (hr : r ∈ c)
    (heq : q.id = r.id) : b = c := by
  induction bs with
  | nil => simp at hb
  | cons d bs ih =>
    rw [List.flatten_cons, List.map_append, List.nodup_append] at h
    obtain ⟨-, hrest, hdisjoint⟩ := h
    -- ids of the first block do not occur in the others
    have hmem : ∀ {e : List Record} {p : Record}, e ∈ bs → p ∈ e →
        p.id ∈ bs.flatten.map (·.id) :=
      fun he hp => List.mem_map_of_mem (List.mem_flatten_of_mem he hp)
    rcases List.mem_cons.mp hb with rfl | hbs <;> rcases List.mem_cons.mp hc with rfl | hcs
    · rfl
    · exact absurd heq (hdisjoint _ (List.mem_map_of_mem hq) _ (hmem hcs hr))
    · exact absurd heq.symm (hdisjoint _ (List.mem_map_of_mem hr) _ (hmem hbs hq))
    · exact ih hrest hbs hcs

/-- A record is committed with its block. -/
theorem mem_committed_iff (refused : List String) {bs : List (List Record)}
    (h : (bs.flatten.map (·.id)).Nodup) (hb : b ∈ bs) (hr : r ∈ b) :
    r.id ∈ committed refused bs ↔ ¬ RollsBack refused b := by
  constructor
  · intro hmem
    obtain ⟨q, hq, heq⟩ := List.mem_map.mp hmem
    obtain ⟨c, hc, hqc⟩ := List.mem_flatten.mp hq
    obtain ⟨hcbs, hcommit⟩ := List.mem_filter.mp hc
    rw [block_unique h hb hcbs hr hqc heq.symm]
    simpa using hcommit
  · intro hcommit
    refine List.mem_map_of_mem (List.mem_flatten_of_mem (List.mem_filter.mpr ⟨hb, ?_⟩) hr)
    simpa using hcommit

/-- No block is rolled back when nothing is malformed and nothing refused. -/
theorem not_rollsBack_nil (h : ∀ r ∈ b, ¬ r.IsMalformed) : ¬ RollsBack [] b := by
  rintro ⟨r, hr, hmal | ⟨hin, -⟩⟩
  · exact h r hr hmal
  · exact absurd hin (List.not_mem_nil)

theorem committed_blocks_subset {n : Nat} (hn : 0 < n) {id : String}
    (h : id ∈ committed refused (blocks n b)) : id ∈ b.map (·.id) := by
  obtain ⟨r, hr, rfl⟩ := List.mem_map.mp h
  obtain ⟨c, hc, hrc⟩ := List.mem_flatten.mp hr
  exact List.mem_map_of_mem (mem_of_mem_blocks hn (List.mem_filter.mp hc).1 hrc)

namespace Migration

/-- What blocks leave behind: those that are not rolled back become canonical, and the others are
reported, the first block under the number given. -/
structure Leaves (refused : List String) (chunk : Nat) (bs : List (List Record))
    (st st' : MigrationState MemoryStore) : Prop where
  documents : st'.store.documents = canonicalizeAt (committed refused bs) st.store.documents
  failures : st'.report.failures.map ChunkFailure.place =
    st.report.failures.map ChunkFailure.place ++ rolledBack refused chunk bs

theorem leaves_nil (refused : List String) (chunk : Nat) (st : MigrationState MemoryStore) :
    Leaves refused chunk [] st st where
  documents := by simp [committed]
  failures := by simp [rolledBack]

/-- One block, and the blocks after it with other records. -/
theorem Leaves.cons {chunk : Nat} {bs : List (List Record)}
    {st st₁ st' : MigrationState MemoryStore} (h : Leaves refused chunk [b] st st₁)
    (h' : Leaves refused (chunk + 1) bs st₁ st')
    (hdisjoint : ∀ id ∈ committed refused [b], id ∉ committed refused bs) :
    Leaves refused chunk (b :: bs) st st' where
  documents := by
    rw [h'.documents, h.documents, committed_cons bs]
    exact canonicalizeAt_canonicalizeAt fun id hid hin => hdisjoint id hin hid
  failures := by
    rw [h'.failures, h.failures, List.append_assoc, ← rolledBack_cons]

/-- What one block of records leaves behind: it is committed or rolled back as a whole. -/
theorem runChunk_refusing (refused : List String) (hlive : m.mode = .live)
    (hsorted : st.store.documents.Sorted)
    (hids : (b.map (·.id)).Nodup) (hwf : ∀ r ∈ b, r.document.WellFormed)
    (hmem : ∀ r ∈ b, st.store.documents.get? r.id = some r.document)
    (chunk : Nat) {first last : Record} (hfirst : b.head? = some first)
    (hlast : b.getLast? = some last) :
    Leaves refused chunk [b] st
      (m.runChunk (MemoryStore.refusing refused) chunk first.id last.id b st) := by
  have hplace : ∀ e, ChunkFailure.place ⟨chunk, first.id, last.id, e⟩ =
      (chunk, b.head?.map (·.id), b.getLast?.map (·.id)) := by
    intro e
    rw [hfirst, hlast]
    rfl
  by_cases hmalformed : ∃ r ∈ b, r.IsMalformed
  · -- planning fails
    have hback : RollsBack refused b := by
      obtain ⟨r, hr, hmal⟩ := hmalformed
      exact ⟨r, hr, Or.inl hmal⟩
    obtain ⟨e, he⟩ := planAll_of_isMalformed hmalformed st.report
    simp only [runChunk, he]
    constructor <;> simp [committed, rolledBack, hback, hplace]
  · have hplain : ∀ r ∈ b, ¬ r.IsMalformed := fun r hr hmal => hmalformed ⟨r, hr, hmal⟩
    have hplan := planAll_of_not_isMalformed hplain st.report
    have hfailures := MigrationReport.failures_foldl_scanRecord b st.report
    by_cases hrefused : ∃ p ∈ replacements b, p.id ∈ refused
    · -- a write fails
      have hback : RollsBack refused b := by
        obtain ⟨p, hp, hin⟩ := hrefused
        obtain ⟨r, hr, hv, hid⟩ := mem_replacements_iff.mp hp
        exact ⟨r, hr, Or.inr ⟨hid ▸ hin, (Record.exists_replacement?_iff (hwf r hr)).mp ⟨_, hv⟩⟩⟩
      obtain ⟨e, he⟩ :=
        persist_refusing_of_mem hlive (isSome_get?_of_mem_replacements hmem) hrefused
      simp only [runChunk, hplan, he]
      constructor <;> simp [committed, rolledBack, hback, hplace]
    · -- everything is written
      have hcommit : ¬ RollsBack refused b := by
        rintro ⟨r, hr, hmal | ⟨hin, hchanges⟩⟩
        · exact hplain r hr hmal
        · obtain ⟨v, hv⟩ := (Record.exists_replacement?_iff (hwf r hr)).mpr hchanges
          exact hrefused ⟨⟨r.id, v⟩, mem_replacements_iff.mpr ⟨r, hr, hv, rfl⟩, hin⟩
      have hallowed : ∀ p ∈ replacements b, p.id ∉ refused :=
        fun p hp hin => hrefused ⟨p, hp, hin⟩
      have hpersist := persist_replacements refused hlive hallowed hsorted hids hwf hmem
      simp only [runChunk, hplan, hpersist]
      constructor <;> simp [committed, rolledBack, hcommit, hfailures]

/-- The first block of a window that is not empty: what it leaves behind, what comes after it, and
that no id of it comes again. -/
theorem runChunk_take (refused : List String) (hlive : m.mode = .live) {n : Nat}
    {st : MigrationState MemoryStore} {cursor : Option String} {rest : List Record}
    (hsorted : st.store.documents.Sorted) (hrest : window st.store.records cursor none = rest)
    (hwf : ∀ r ∈ rest, r.document.WellFormed) (chunk : Nat) {first last : Record}
    (hfirst : (rest.take n).head? = some first) (hlast : (rest.take n).getLast? = some last) :
    let st₁ := m.runChunk (MemoryStore.refusing refused) chunk first.id last.id (rest.take n) st
    Leaves refused chunk [rest.take n] st st₁ ∧ st₁.store.documents.Sorted ∧
      window st₁.store.records (some last.id) none = rest.drop n ∧
      ∀ id ∈ (rest.take n).map (·.id), id ∉ (rest.drop n).map (·.id) := by
  intro st₁
  have hsplit : window st.store.records cursor none = rest.take n ++ rest.drop n := by
    rw [hrest, List.take_append_drop]
  have hget : ∀ r ∈ rest.take n, st.store.documents.get? r.id = some r.document := by
    intro r hr
    have hwindow := List.mem_of_mem_take hr
    rw [← hrest] at hwindow
    exact MemoryStore.get?_of_mem_records hsorted (mem_window_iff.mp hwindow).1
  have hids := MemoryStore.nodup_ids_window hsorted cursor
  rw [hsplit, List.map_append] at hids
  obtain ⟨hfront, -, hdisjoint⟩ := List.nodup_append.mp hids
  have hleaves : Leaves refused chunk [rest.take n] st st₁ :=
    runChunk_refusing refused hlive hsorted hfront (fun r hr => hwf r (List.mem_of_mem_take hr))
      hget chunk hfirst hlast
  refine ⟨hleaves, ?_, ?_, fun id hid hin => hdisjoint id hid id hin rfl⟩
  · rw [hleaves.documents]
    exact sorted_canonicalizeAt hsorted _
  · exact MemoryStore.window_after_canonicalizeAt hsorted hsplit hlast
      (fun _ => committed_singleton_subset) hleaves.documents

/-- **What each block preserves, with the records behind it, a run in chunks preserves.** The run
stops by itself: any bound beyond the number of records gives the same result. -/
theorem runChunks_induction {refused : List String} {n : Nat} (hn : 0 < n)
    {P : Nat → List Record → MigrationState MemoryStore → Prop}
    (hstep : ∀ {chunk : Nat} {rest : List Record} {st : MigrationState MemoryStore}
      {cursor : Option String} {first last : Record}, P chunk rest st →
      window st.store.records cursor none = rest → (rest.take n).head? = some first →
      (rest.take n).getLast? = some last →
      let st₁ := m.runChunk (MemoryStore.refusing refused) chunk first.id last.id (rest.take n) st
      P (chunk + 1) (rest.drop n) st₁ ∧
        window st₁.store.records (some last.id) none = rest.drop n)
    {chunk : Nat} {rest : List Record} {st : MigrationState MemoryStore} {cursor : Option String}
    (hP : P chunk rest st) (hrest : window st.store.records cursor none = rest) :
    ∃ (st' : MigrationState MemoryStore) (chunk' : Nat),
      (∀ fuel, rest.length < fuel →
        m.runChunks (MemoryStore.refusing refused) n fuel chunk cursor st = (st', .ok ())) ∧
      P chunk' [] st' := by
  have hselect : ∀ {st : MigrationState MemoryStore} {cursor : Option String} {rest : List Record},
      window st.store.records cursor none = rest →
      (MemoryStore.refusing refused).select st.store cursor (some n) = .ok (rest.take n) := by
    rintro st cursor rest rfl
    rfl
  induction hlength : rest.length using Nat.strongRecOn generalizing rest cursor st chunk with
  | ind length ih =>
    by_cases hempty : rest = []
    · -- nothing is left
      subst hempty
      refine ⟨st, chunk, fun fuel hfuel => ?_, hP⟩
      obtain ⟨fuel, rfl⟩ := Nat.exists_eq_succ_of_ne_zero (Nat.ne_zero_of_lt hfuel)
      exact runChunks_of_nil (by rw [hselect hrest, List.take_nil]) fuel chunk
    · have hpos := List.length_pos_iff.mpr hempty
      have htake : rest.take n ≠ [] := by
        rw [← List.length_pos_iff, List.length_take]
        omega
      have hshorter : (rest.drop n).length < length := by
        rw [List.length_drop]
        omega
      obtain ⟨first, last, hfirst, hlast⟩ := exists_head?_getLast? htake
      obtain ⟨hP₁, hnext⟩ := hstep hP hrest hfirst hlast
      obtain ⟨st', chunk', hrun, hP'⟩ := ih _ hshorter hP₁ hnext rfl
      refine ⟨st', chunk', fun fuel hfuel => ?_, hP'⟩
      obtain ⟨fuel, rfl⟩ := Nat.exists_eq_succ_of_ne_zero (Nat.ne_zero_of_lt hfuel)
      rw [runChunks_of_ne_nil (hselect hrest) hfirst hlast]
      split
      · next hshort =>
        -- the block was not full, so nothing is left
        have hnil : rest.drop n = [] := by
          rw [List.drop_eq_nil_iff]
          rw [List.length_take] at hshort
          omega
        rw [← hrun 1 (by simp [hnil]), runChunks_of_nil]
        rw [hselect hnext, hnil, List.take_nil]
      · exact hrun fuel (by omega)

/-- What the blocks leave behind, one after another. -/
theorem runChunks_refusing (refused : List String) (hlive : m.mode = .live) {n : Nat} (hn : 0 < n)
    (st : MigrationState MemoryStore) {rest : List Record} {cursor : Option String}
    (hsorted : st.store.documents.Sorted)
    (hrest : window st.store.records cursor none = rest)
    (hwf : ∀ r ∈ rest, r.document.WellFormed) (chunk : Nat) :
    ∃ st' : MigrationState MemoryStore,
      (∀ fuel, rest.length < fuel →
        m.runChunks (MemoryStore.refusing refused) n fuel chunk cursor st = (st', .ok ())) ∧
      Leaves refused chunk (blocks n rest) st st' := by
  -- what the blocks so far left behind goes before what the rest leaves behind
  let P : Nat → List Record → MigrationState MemoryStore → Prop := fun chunk₁ rest₁ st₁ =>
    st₁.store.documents.Sorted ∧ (∀ r ∈ rest₁, r.document.WellFormed) ∧
      ∀ st', Leaves refused chunk₁ (blocks n rest₁) st₁ st' →
        Leaves refused chunk (blocks n rest) st st'
  have hP : P chunk rest st := ⟨hsorted, hwf, fun _ => id⟩
  obtain ⟨st', chunk', hrun, -, -, hleaves⟩ := runChunks_induction hn (P := P) (by
    rintro chunk₁ rest₁ st₁ cursor₁ first last ⟨hsorted₁, hwf₁, hgoOn⟩ hrest₁ hfirst hlast
    obtain ⟨hleaves, hsorted₂, hnext, hdisjoint⟩ :=
      runChunk_take refused hlive hsorted₁ hrest₁ hwf₁ chunk₁ hfirst hlast
    refine ⟨⟨hsorted₂, fun r hr => hwf₁ r (List.mem_of_mem_drop hr), fun st' hleaves' => ?_⟩, hnext⟩
    have hne : rest₁ ≠ [] := by
      rintro rfl
      simp at hfirst
    refine hgoOn st' ?_
    rw [blocks_of_ne_nil hn hne]
    refine hleaves.cons hleaves' fun id hid hin => ?_
    exact hdisjoint id (committed_singleton_subset hid) (committed_blocks_subset hn hin)) hP hrest
  refine ⟨st', hrun, hleaves st' ?_⟩
  rw [blocks_nil]
  exact leaves_nil refused chunk' st'

/-! ### Runs -/

/-- A live run in chunks over a store in memory. -/
theorem exists_run_chunked (hs : s.Valid) {n : Nat} (hn : 0 < n) (refused : List String) :
    ∃ (st : MigrationState MemoryStore) (events : List MigrationEvent) (report : MigrationReport),
      (∀ fuel, (window s.records none none).length < fuel →
        runChunks ⟨.live, .chunked n, none⟩ (MemoryStore.refusing refused) n fuel 0 none
          ⟨s, .empty .live (.chunked n) none, []⟩ = (st, .ok ())) ∧
      run ⟨.live, .chunked n, none⟩ (MemoryStore.refusing refused) s =
        (st.store, events, .ok report) ∧
      st.store.documents =
        canonicalizeAt (committed refused (blocks n (window s.records none none))) s.documents ∧
      report.failures.map ChunkFailure.place =
        rolledBack refused 0 (blocks n (window s.records none none)) := by
  obtain ⟨st, hrun, hleaves⟩ := runChunks_refusing refused
    (m := ⟨.live, .chunked n, none⟩) rfl hn ⟨s, .empty .live (.chunked n) none, []⟩ hs.sorted rfl
    (fun r hr => hs.wellFormed_of_mem_records (mem_window_iff.mp hr).1) 0
  have hselect : ∀ s : MemoryStore, (MemoryStore.refusing refused).select s none none =
      .ok (window s.records none none) := fun _ => rfl
  have hrecords : runRecords ⟨.live, .chunked n, none⟩ (MemoryStore.refusing refused)
      ⟨s, .empty .live (.chunked n) none, []⟩ = (st, .ok ()) := by
    obtain ⟨n, rfl⟩ := Nat.exists_eq_succ_of_ne_zero (Nat.ne_zero_of_lt hn)
    refine hrun _ ?_
    rw [chunkBound, hselect]
    exact Nat.lt_succ_self _
  obtain ⟨events, hfinal⟩ := exists_run_of_runRecords _ rfl hrecords (hselect st.store)
  refine ⟨st, events, _, hrun, hfinal, hleaves.documents, ?_⟩
  rw [MigrationReport.failures_recount, hleaves.failures]
  rfl

/-- **A live run in chunks, with records that fail.** The records with packages are cut into
consecutive blocks. Each block is left as it was or becomes canonical as a whole, all other records
stay as they are, and the failures reported are the blocks that were left, in order. The run stops
by itself, whatever bound it is given. -/
theorem run_chunked_refusing (hs : s.Valid) {n : Nat} (hn : 0 < n) (refused : List String) :
    ∃ (s' : MemoryStore) (events : List MigrationEvent) (report : MigrationReport),
      run ⟨.live, .chunked n, none⟩ (MemoryStore.refusing refused) s = (s', events, .ok report) ∧
      s'.documents.keys = s.documents.keys ∧
      (∀ b ∈ blocks n (window s.records none none), ∀ r ∈ b, s'.get? r.id =
        some (if RollsBack refused b then r.document else canonicalizeDocument r.document)) ∧
      (∀ r ∈ s.records, r.packages? = none → s'.get? r.id = some r.document) ∧
      report.failures.map ChunkFailure.place =
        rolledBack refused 0 (blocks n (window s.records none none)) ∧
      ∃ st : MigrationState MemoryStore, st.store = s' ∧
        ∀ fuel, (window s.records none none).length < fuel →
          runChunks ⟨.live, .chunked n, none⟩ (MemoryStore.refusing refused) n fuel 0 none
            ⟨s, .empty .live (.chunked n) none, []⟩ = (st, .ok ()) := by
  obtain ⟨st, events, report, hchunks, hrun, hdocuments, hfailures⟩ :=
    exists_run_chunked hs hn refused
  have hget : ∀ r ∈ s.records, st.store.get? r.id =
      some (if r.id ∈ committed refused (blocks n (window s.records none none)) then
        canonicalizeDocument r.document else r.document) := by
    intro r hr
    rw [MemoryStore.get?, hdocuments, get?_canonicalizeAt,
      MemoryStore.get?_of_mem_records hs.sorted hr, Option.map_some]
  have hnodup := MemoryStore.nodup_ids_window hs.sorted none
  refine ⟨st.store, events, report, hrun, ?_, ?_, ?_, hfailures, st, rfl, hchunks⟩
  · rw [hdocuments, keys_canonicalizeAt]
  · intro b hb r hr
    have hmem := mem_committed_iff refused (by rw [flatten_blocks hn]; exact hnodup) hb hr
    rw [hget r (mem_window_iff.mp (mem_of_mem_blocks hn hb hr)).1]
    by_cases hback : RollsBack refused b
    · rw [if_neg fun hin => hmem.mp hin hback, if_pos hback]
    · rw [if_pos (hmem.mpr hback), if_neg hback]
  · intro r hr hnone
    -- a record without packages is in no block
    have hout : r.id ∉ committed refused (blocks n (window s.records none none)) := by
      intro hin
      obtain ⟨q, hq, heq⟩ := List.mem_map.mp (committed_blocks_subset hn hin)
      obtain ⟨hqs, hpackages, -⟩ := mem_window_iff.mp hq
      have hdocument := MemoryStore.get?_of_mem_records hs.sorted hqs
      rw [heq, MemoryStore.get?_of_mem_records hs.sorted hr] at hdocument
      rw [Record.packages?, ← Option.some.inj hdocument] at hpackages
      rw [Record.packages?] at hnone
      rw [hnone] at hpackages
      cases hpackages
    rw [hget r hr, if_neg hout]

/-- A record that changes, one that does not, and a malformed one. -/
def mixedRecords : List Record :=
  [⟨"a", .obj [("packages", .arr [.obj [("registryType", .str "npm"), ("identifier", .str "x")]])]⟩,
    ⟨"b", .obj [("packages", .arr [])]⟩, ⟨"c", .obj [("packages", .bool true)]⟩]

theorem valid_mixedRecords : (MemoryStore.ofRecords mixedRecords).Valid := by
  refine MemoryStore.valid_ofRecords ?_
  simp [mixedRecords, Json.Members.keys, Json.WellFormed.str, Json.WellFormed.bool]

theorem run_chunked_refusing_mixedRecords :
    ∃ (s' : MemoryStore) (events : List MigrationEvent) (report : MigrationReport),
      run ⟨.live, .chunked 1, none⟩ (MemoryStore.refusing ["a", "b"])
        (MemoryStore.ofRecords mixedRecords) = (s', events, .ok report) ∧
      report.failures.map ChunkFailure.place = [(0, some "a", some "a"), (2, some "c", some "c")] := by
  obtain ⟨s', events, report, hrun, -, -, -, hfailures, -⟩ :=
    run_chunked_refusing valid_mixedRecords (n := 1) (by decide) ["a", "b"]
  refine ⟨s', events, report, hrun, hfailures.trans ?_⟩
  decide

/-- When all records with packages were made canonical, all records are. -/
theorem canonicalizeAt_window :
    canonicalizeAt ((window s.records none none).map (·.id)) s.documents =
      s.documents.map fun e => (e.1, canonicalizeDocument e.2) := by
  refine List.map_congr_left fun e he => Prod.ext rfl ?_
  by_cases hin : e.1 ∈ (window s.records none none).map (·.id)
  · rw [if_pos hin]
  · rw [if_neg hin]
    -- a record without packages is canonical as it is
    refine (Record.canonicalizeDocument_eq_self (r := ⟨e.1, e.2⟩) fun v hv => ?_).symm
    refine absurd (List.mem_map.mpr ⟨⟨e.1, e.2⟩, mem_window_iff.mpr ⟨?_, ?_, rfl⟩, rfl⟩) hin
    · exact MemoryStore.mem_records_iff.mpr he
    · rw [hv]
      rfl

/-- A live run in one transaction over a store in memory. -/
theorem exists_run_atomic (hs : s.Valid) (hplain : ∀ r ∈ s.records, ¬ r.IsMalformed) :
    ∃ (s' : MemoryStore) (events : List MigrationEvent) (report : MigrationReport),
      run ⟨.live, .atomic, none⟩ MemoryStore.store s = (s', events, .ok report) ∧
      report.failures = [] ∧
      s'.documents = canonicalizeAt ((window s.records none none).map (·.id)) s.documents := by
  have hmem : ∀ r ∈ window s.records none none, r ∈ s.records :=
    fun r hr => (mem_window_iff.mp hr).1
  have hplan :=
    planAll_of_not_isMalformed (fun r hr => hplain r (hmem r hr)) (.empty .live .atomic none)
  have hpersist := persist_replacements [] (m := ⟨.live, .atomic, none⟩) rfl
    (fun _ _ => List.not_mem_nil) hs.sorted (MemoryStore.nodup_ids_window hs.sorted none)
    (fun r hr => hs.wellFormed_of_mem_records (hmem r hr))
    (fun r hr => MemoryStore.get?_of_mem_records hs.sorted (hmem r hr))
  rw [MemoryStore.refusing_nil] at hpersist
  have hselect : ∀ s : MemoryStore, MemoryStore.store.select s none none =
      .ok (window s.records none none) := fun _ => rfl
  have hrecords : ∃ st, runRecords ⟨.live, .atomic, none⟩ MemoryStore.store
      ⟨s, .empty .live .atomic none, []⟩ = (st, .ok ()) ∧ st.report.failures = [] ∧
      st.store.documents =
        canonicalizeAt ((window s.records none none).map (·.id)) s.documents := by
    rw [runRecords, runAtomic]
    simp only [hselect, hplan, hpersist]
    exact ⟨_, rfl, MigrationReport.failures_foldl_scanRecord _ _, rfl⟩
  obtain ⟨st, hrecords, hnone, hdocuments⟩ := hrecords
  obtain ⟨events, hrun⟩ := exists_run_of_runRecords _ rfl hrecords (hselect st.store)
  exact ⟨st.store, events, _, hrun, by rw [MigrationReport.failures_recount, hnone], hdocuments⟩

/-- **A live run without records that fail makes every document canonical**, with any strategy. -/
theorem run_eq_canonicalize (hs : s.Valid) (hplain : ∀ r ∈ s.records, ¬ r.IsMalformed)
    {strategy : MigrationStrategy} (hstrategy : strategy ≠ .chunked 0) :
    ∃ (s' : MemoryStore) (events : List MigrationEvent) (report : MigrationReport),
      run ⟨.live, strategy, none⟩ MemoryStore.store s = (s', events, .ok report) ∧
      report.failures = [] ∧
      s'.documents = s.documents.map fun e => (e.1, canonicalizeDocument e.2) := by
  rw [← canonicalizeAt_window]
  cases strategy with
  | atomic => exact exists_run_atomic hs hplain
  | chunked n =>
    have hn : 0 < n := Nat.pos_of_ne_zero fun hzero => hstrategy (by rw [hzero])
    obtain ⟨st, events, report, -, hrun, hdocuments, hfailures⟩ := exists_run_chunked hs hn []
    have hcommits : ∀ b ∈ blocks n (window s.records none none), ¬ RollsBack [] b :=
      fun b hb => not_rollsBack_nil fun r hr =>
        hplain r (mem_window_iff.mp (mem_of_mem_blocks hn hb hr)).1
    -- all blocks are committed, and together they are all records with packages
    have hcommitted : committed [] (blocks n (window s.records none none)) =
        (window s.records none none).map (·.id) := by
      rw [committed, List.filter_eq_self.mpr (by simpa using hcommits), flatten_blocks hn]
    have hback : rolledBack [] 0 (blocks n (window s.records none none)) = [] := by
      rw [rolledBack, List.map_eq_nil_iff, List.filter_eq_nil_iff]
      intro e he
      simpa using hcommits e.1 (List.fst_mem_of_mem_zipIdx he)
    rw [hback, List.map_eq_nil_iff] at hfailures
    rw [hcommitted] at hdocuments
    rw [← MemoryStore.refusing_nil]
    exact ⟨st.store, events, report, hrun, hfailures, hdocuments⟩

theorem run_eq_canonicalize_take_mixedRecords :
    ∃ (s' : MemoryStore) (events : List MigrationEvent) (report : MigrationReport),
      run ⟨.live, .chunked 1, none⟩ MemoryStore.store
        (MemoryStore.ofRecords (mixedRecords.take 2)) = (s', events, .ok report) ∧
      report.failures = [] ∧
      s'.documents = (MemoryStore.ofRecords (mixedRecords.take 2)).documents.map fun e =>
        (e.1, canonicalizeDocument e.2) := by
  refine run_eq_canonicalize (MemoryStore.valid_ofRecords ?_) (by decide) fun h => by cases h
  simp [mixedRecords, Json.Members.keys, Json.WellFormed.str]

end Migration

end Catalog
