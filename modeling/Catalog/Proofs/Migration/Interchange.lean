import Catalog.Proofs.Migration.File
import Catalog.Proofs.Migration.Resume
import Catalog.Proofs.Record.Commit

/-!
# Migrations in memory and in a file

Records with different ids can be kept in memory or in a file: a migration has the same result and
leaves the same records behind. A store in memory refuses a write to an unknown record at once and
applies the writes of a transaction one after another, while a file looks for the records in its
commit and gives each of them the last packages that were written. For records with different ids
both make canonical what was planned.

## Main definitions

* `FileStore.Keeps` — a file that holds records, and from which they can be read again after a
  migration has written them.
* `Migration.Mirrors` — a file holds the records of a store in memory.

## Main results

* `MemoryStore.records_ofRecords` — the records in memory are those in a file.
* `FileStore.applyWrites_of_nodup` — what a commit to a file does to records with different ids.
* `FileStore.keeps_ofRecords` — records that can be written and read again are kept.
* `Migration.inStep_mirrors` — the two runs are in step.
* `Migration.run_interchangeable` — **a run over records in memory is a run over them in a file.**
-/

namespace Catalog

open Json (Bounded Number)

variable {K L b : List Record} {r q : Record} {ids : List String} {s₀ s : MemoryStore}
  {f₀ f : FileStore} {c c' : Option String} {limit : Option Nat} {m : Migration}

/-- Records with different ids are known by their ids. -/
theorem eq_of_id_eq (hids : (K.map (·.id)).Nodup) (hr : r ∈ K) (hq : q ∈ K) (h : q.id = r.id) :
    q = r :=
  List.inj_on_of_nodup_map hids hq hr h

/-- Records with different ids are in memory as they are in a file. -/
theorem MemoryStore.records_ofRecords (hids : (L.map (·.id)).Nodup) :
    (ofRecords L).records = FileStore.sortById L := by
  have hmemory : (ofRecords L).records.Perm L := by
    have hentries : ((L.map fun r => (r.id, r.document)).map Prod.fst).Nodup := by
      rwa [List.map_map]
    have hperm := (Table.ofList_perm hentries).map fun e => (⟨e.1, e.2⟩ : Record)
    rw [List.map_map] at hperm
    exact hperm.trans (List.Perm.of_eq (List.map_id' L))
  have hfile : (FileStore.sortById L).Perm L := List.mergeSort_perm _ _
  have hsorted : (ofRecords L).records.Pairwise fun a b => a.id ≤ b.id :=
    (pairwise_records (Table.sorted_ofList _)).imp fun hlt => String.not_lt.mp (String.lt_asymm hlt)
  -- both are sorted, and one id has one record
  refine (hmemory.trans hfile.symm).eq_of_pairwise ?_ hsorted (FileStore.pairwise_sortById L)
  intro r q hr hq hle hge
  exact eq_of_id_eq hids (hfile.mem_iff.mp hq) (hmemory.mem_iff.mp hr)
    (String.le_antisymm hle hge)

/-! ### Commits to a file -/

namespace FileStore

/-- What a commit does to records with different ids: each of them gets the packages that were
written under its id, and the writes that found no record are left over. -/
theorem applyWrites_of_nodup (hids : (K.map (·.id)).Nodup) {pending : Pending}
    (hobj : ∀ r ∈ K, ∀ v, pending.get? r.id = some v → ∃ ms, r.document = .obj ms) :
    applyWrites K pending =
      .ok (K.map fun r => ⟨r.id, MemoryStore.withPackages (pending.get? r.id) r.document⟩,
        pending.filter fun e => e.1 ∉ K.map (·.id)) := by
  -- the induction is on the records: the writes under the first id are used up by its record
  induction K generalizing pending with
  | nil => simp [applyWrites]
  | cons r K ih =>
    obtain ⟨hnew, hids⟩ := List.nodup_cons.mp hids
    obtain ⟨hr, hobj⟩ := List.forall_mem_cons.mp hobj
    have hne : ∀ q ∈ K, q.id ≠ r.id := by
      intro q hq heq
      exact hnew (List.mem_map.mpr ⟨q, hq, heq⟩)
    -- the writes that the records after the first one see are those for other ids
    have hrest : ∀ pending' : Pending, (∀ q ∈ K, pending'.get? q.id = pending.get? q.id) →
        pending'.filter (fun e => e.1 ∉ K.map (·.id)) =
          pending.filter (fun e => e.1 ∉ (r :: K).map (·.id)) →
        applyWrites K pending' =
          .ok (K.map fun r => ⟨r.id, MemoryStore.withPackages (pending.get? r.id) r.document⟩,
            pending.filter fun e => e.1 ∉ (r :: K).map (·.id)) := by
      intro pending' hget hleft
      rw [ih hids fun q hq v hv => hobj q hq v (by rwa [← hget q hq]), hleft]
      congr 2
      exact List.map_congr_left fun q hq => by rw [hget q hq]
    rw [applyWrites, List.map_cons]
    cases hget : pending.get? r.id with
    | none =>
      have hleft : pending.filter (fun e => e.1 ∉ K.map (·.id)) =
          pending.filter fun e => e.1 ∉ (r :: K).map (·.id) := by
        refine List.filter_congr fun e he => ?_
        have hkey : e.1 ≠ r.id := by
          intro heq
          refine Table.get?_eq_none_iff.mp hget ?_
          rw [← heq]
          exact List.mem_map_of_mem he
        rw [Bool.eq_iff_iff]
        simp only [decide_eq_true_eq, List.map_cons, List.mem_cons, hkey, false_or]
      rw [hrest pending (fun _ _ => rfl) hleft, MemoryStore.withPackages_none]
      rfl
    | some v =>
      obtain ⟨ms, hms⟩ := hr v hget
      simp only [hms]
      rw [hrest]
      · rfl
      · intro q hq
        rw [get?_filter_ne, if_neg (hne q hq)]
      · rw [List.filter_filter]
        refine List.filter_congr fun e _ => ?_
        rw [Bool.eq_iff_iff]
        simp only [Bool.and_eq_true, decide_eq_true_eq, List.map_cons, List.mem_cons, not_or,
          and_comm]

end FileStore

/-- What was planned for a record is what a transaction holds under its id. -/
theorem Migration.get?_pendingOf (hids : (b.map (·.id)).Nodup) (hr : r ∈ b) :
    (pendingOf b).get? r.id = r.replacement? := by
  cases hreplacement : r.replacement? with
  | none =>
    by_contra hne
    obtain ⟨v, hv⟩ := Option.ne_none_iff_exists'.mp hne
    obtain ⟨q, hq, hid, hsome⟩ := exists_of_get?_pendingOf hv
    rw [eq_of_id_eq hids hr hq hid, hreplacement] at hsome
    cases hsome
  | some v =>
    have hentries :
        (((replacements b).map fun p => (p.id, p.packages)).map Prod.fst).Nodup := by
      rw [List.map_map]
      exact hids.sublist (map_id_replacements_sublist b)
    refine (sorted_pendingOf b).get?_of_mem ?_
    rw [pendingOf_eq_ofList, (Table.ofList_perm hentries).mem_iff]
    exact List.mem_map.mpr ⟨⟨r.id, v⟩, mem_replacements_iff.mpr ⟨r, hr, hreplacement, rfl⟩, rfl⟩

/-- A commit of what was planned for some of the records makes these canonical. -/
theorem FileStore.applyWrites_pendingOf (hids : (K.map (·.id)).Nodup)
    (hwf : ∀ r ∈ K, r.document.WellFormed) (hb : ∀ q ∈ b, q ∈ K) (hbids : (b.map (·.id)).Nodup) :
    applyWrites K (Migration.pendingOf b) =
      .ok (K.map (Record.canonicalizeIn (b.map (·.id))), []) := by
  have hobj : ∀ r ∈ K, ∀ v, (Migration.pendingOf b).get? r.id = some v →
      ∃ ms, r.document = .obj ms := by
    intro r hr v hv
    obtain ⟨q, hq, hid, hreplacement⟩ := Migration.exists_of_get?_pendingOf hv
    obtain rfl := eq_of_id_eq hids hr (hb q hq) hid
    obtain ⟨ms, hms, -⟩ := Record.canonicalize_of_replacement? hreplacement
    exact ⟨ms, hms⟩
  have hleft : (Migration.pendingOf b).filter (fun e => e.1 ∉ K.map (·.id)) = [] := by
    rw [List.filter_eq_nil_iff]
    rintro ⟨id, v⟩ he
    have hget := (Migration.sorted_pendingOf b).get?_of_mem he
    obtain ⟨q, hq, hid, -⟩ := Migration.exists_of_get?_pendingOf hget
    simpa using ⟨q, hb q hq, hid⟩
  have hcanonical : ∀ r ∈ K,
      (⟨r.id, MemoryStore.withPackages ((Migration.pendingOf b).get? r.id) r.document⟩ : Record) =
        r.canonicalizeIn (b.map (·.id)) := by
    intro r hr
    rw [Record.canonicalizeIn]
    split
    · next hmem =>
      obtain ⟨q, hq, hid⟩ := List.mem_map.mp hmem
      obtain rfl := eq_of_id_eq hids hr (hb q hq) hid
      rw [Migration.get?_pendingOf hbids hq, Record.canonicalize]
      cases hreplacement : q.replacement? with
      | none =>
        rw [MemoryStore.withPackages_none,
          Record.canonicalizeDocument_of_replacement?_eq_none (hwf q hr) hreplacement]
      | some v =>
        obtain ⟨ms, hms, hset⟩ := Record.canonicalize_of_replacement? hreplacement
        rw [hset, hms, MemoryStore.withPackages]
    · next hmem =>
      have hnone : (Migration.pendingOf b).get? r.id = none := by
        by_contra hne
        obtain ⟨v, hv⟩ := Option.ne_none_iff_exists'.mp hne
        obtain ⟨q, hq, hid, -⟩ := Migration.exists_of_get?_pendingOf hv
        exact hmem (List.mem_map.mpr ⟨q, hq, hid⟩)
      rw [hnone, MemoryStore.withPackages_none]
  rw [applyWrites_of_nodup hids hobj, hleft, List.map_congr_left hcanonical]

/-! ### Two runs in step -/

/-- The file holds the records, and they can be read from it again after a migration has written
them. -/
structure FileStore.Keeps (f : FileStore) (records : List Record) : Prop where
  load : f.load = .ok records
  reload : ∀ ids, (f.save (records.map (Record.canonicalizeIn ids))).load =
    .ok (records.map (Record.canonicalizeIn ids))

/-- A file keeps the records that it was written with. -/
theorem FileStore.keeps_ofRecords (path : String)
    (h : ∀ r ∈ L, Bounded Number.ReadsBack documentDepth r.document) :
    (ofRecords path L).Keeps (sortById L) where
  load := load_ofRecords_eq_sortById path h
  reload := by
    intro ids
    refine load_save _ ⟨?_, ?_⟩
    · rw [List.pairwise_map]
      simpa using pairwise_sortById L
    · intro r' hr'
      obtain ⟨r, hr, rfl⟩ := List.mem_map.mp hr'
      have hbounded := h r (List.mem_mergeSort.mp hr)
      rw [Record.canonicalizeIn]
      split
      · exact bounded_canonicalizeDocument hbounded
      · exact hbounded

namespace Migration

/-- A file holds the records of a store in memory, of which those up to the cursor may have been
made canonical in both. -/
structure Mirrors (s₀ : MemoryStore) (f₀ : FileStore) (c c' : Option String) (s : MemoryStore)
    (f : FileStore) : Prop where
  cursor : c = c'
  load : f.load = .ok s.records
  path : f.path = f₀.path
  documents : ∃ ids, s.documents = canonicalizeAt ids s₀.documents ∧
    ∀ id ∈ ids, isAfter c id = false

theorem Mirrors.valid (h : Mirrors s₀ f₀ c c' s f) (hs₀ : s₀.Valid) : s.Valid := by
  obtain ⟨ids, hdocuments, -⟩ := h.documents
  exact hs₀.canonicalizeAt hdocuments

/-- Records that were made canonical come before the end of the next window. -/
theorem isAfter_last_eq_false {last : Record} (h : ∀ id ∈ ids, isAfter c id = false)
    (hlast : last ∈ window K c limit) : ∀ id ∈ ids, isAfter (some last.id) id = false := by
  intro id hid
  rw [← Bool.not_eq_true]
  intro hafter
  have hbefore := isAfter_of_isAfter (r := ⟨id, .null⟩) (isAfter_of_mem_window hlast) hafter
  rw [h id hid] at hbefore
  cases hbefore

/-- The next records can be left as they are. -/
theorem Mirrors.skip {last : Record} (h : Mirrors s₀ f₀ c c' s f)
    (hlast : last ∈ window s.records c limit) :
    Mirrors s₀ f₀ (some last.id) (some last.id) s f := by
  obtain ⟨ids, hdocuments, hids⟩ := h.documents
  exact ⟨rfl, h.load, h.path, ids, hdocuments, isAfter_last_eq_false hids hlast⟩

/-- A live transaction over a file with different ids makes the records canonical that something
was planned for. -/
theorem persist_file (hlive : m.mode = .live) (hload : f.load = .ok K)
    (hids : (K.map (·.id)).Nodup) (hwf : ∀ r ∈ K, r.document.WellFormed) (hb : b.Sublist K)
    (hne : replacements b ≠ []) :
    m.persist FileStore.store f (replacements b) =
      (f.save (K.map (Record.canonicalizeIn (b.map (·.id)))), [],
        .ok (replacements b).length) := by
  have hbids : (b.map (·.id)).Nodup := hids.sublist (hb.map _)
  have hpending : pendingOf b ≠ [] := by
    intro hnil
    obtain ⟨p, hp⟩ := List.exists_mem_of_ne_nil _ hne
    obtain ⟨r, hr, hreplacement, -⟩ := mem_replacements_iff.mp hp
    rw [← get?_pendingOf hbids hr, hnil] at hreplacement
    cases hreplacement
  exact persist_of_applyWrites hlive hload hpending
    (FileStore.applyWrites_pendingOf hids hwf (fun _ hq => hb.subset hq) hbids)

/-- What is planned for the next records has the same result in memory and in a file. -/
theorem Mirrors.persist {last : Record} (h : Mirrors s₀ f₀ c c' s f) (hs₀ : s₀.Valid)
    (hf₀ : f₀.Keeps s₀.records) (hlive : m.mode = .live)
    (hlast : (window s.records c limit).getLast? = some last) :
    ∃ t f' n, m.persist MemoryStore.store s (replacements (window s.records c limit)) =
        (t, [], .ok n) ∧
      m.persist FileStore.store f (replacements (window s.records c limit)) = (f', [], .ok n) ∧
      Mirrors s₀ f₀ (some last.id) (some last.id) t f' := by
  by_cases hne : replacements (window s.records c limit) = []
  · rw [hne, persist_nil, persist_nil]
    exact ⟨s, f, 0, rfl, rfl, h.skip (List.mem_of_getLast? hlast)⟩
  · have hs := h.valid hs₀
    have hids := MemoryStore.nodup_ids_records hs.sorted
    obtain ⟨ids, hdocuments₀, hbefore⟩ := h.documents
    obtain ⟨t, hpersist, hdocuments, -⟩ := exists_persist_window m hs c limit
    rw [writeCount, hlive] at hpersist
    rw [touched, hlive] at hdocuments
    have hpersist' := persist_file hlive h.load hids
      (fun r hr => hs.wellFormed_of_mem_records hr) window_sublist hne
    rw [← MemoryStore.records_canonicalizeAt hdocuments] at hpersist'
    -- what is made canonical now was not dealt with before
    have hnew : ∀ id ∈ (window s.records c limit).map (·.id), id ∉ ids := by
      intro id hid hin
      obtain ⟨r, hr, rfl⟩ := List.mem_map.mp hid
      have hafter := isAfter_of_mem_window hr
      rw [hbefore r.id hin] at hafter
      cases hafter
    rw [hdocuments₀, canonicalizeAt_canonicalizeAt hnew] at hdocuments
    have hload : (f.save t.records).load = .ok t.records := by
      rw [MemoryStore.records_canonicalizeAt hdocuments, FileStore.save, h.path]
      exact hf₀.reload _
    refine ⟨t, _, _, hpersist, hpersist', rfl, hload, h.path, _, hdocuments, ?_⟩
    intro id hid
    rcases List.mem_append.mp hid with hold | hwindow
    · exact isAfter_last_eq_false hbefore (List.mem_of_getLast? hlast) id hold
    · obtain ⟨r, hr, rfl⟩ := List.mem_map.mp hwindow
      rw [isAfter, decide_eq_false_iff_not]
      exact String.not_lt.mpr (le_of_mem_window (FileStore.sorted_of_load h.load) hlast hr)

/-- A migration of records in memory is in step with the migration of the records in a file. -/
theorem inStep_mirrors (m : Migration) (hs₀ : s₀.Valid) (hf₀ : f₀.Keeps s₀.records) :
    InStep m m MemoryStore.store FileStore.store (Mirrors s₀ f₀) where
  mode := rfl
  strategy := rfl
  select := by
    intro c c' s f h limit
    rw [FileStore.select_of_load h.load, ← h.cursor]
    rfl
  reselect := by
    intro c c' s f h
    rw [FileStore.select_of_load h.load]
    rfl
  skip := by
    intro c c' s f limit b last h hselect hlast
    obtain rfl := Except.ok.inj hselect
    exact h.skip (List.mem_of_getLast? hlast)
  persist := by
    intro c c' s f limit b last hlive h hselect hlast _
    obtain rfl := Except.ok.inj hselect
    obtain ⟨t, f', n, hpersist, hpersist', hnext⟩ := h.persist hs₀ hf₀ hlive hlast
    rw [hpersist, hpersist']
    exact ⟨hnext, rfl⟩

/-- **A run over records in memory is a run over them in a file.** -/
theorem run_interchangeable (hids : (L.map (·.id)).Nodup) (hf : f.Keeps (FileStore.sortById L))
    (m : Migration) :
    ∃ (t : MemoryStore) (f' : FileStore) (events : List MigrationEvent)
      (result : Except Error MigrationReport),
      m.run MemoryStore.store (MemoryStore.ofRecords L) = (t, events, result) ∧
        m.run FileStore.store f = (f', events, result) ∧ f'.load = .ok t.records := by
  have hs : (MemoryStore.ofRecords L).Valid := by
    refine MemoryStore.valid_ofRecords fun r hr => ?_
    have hmem : r ∈ FileStore.sortById L := (List.mergeSort_perm _ _).mem_iff.mpr hr
    exact (FileStore.bounded_of_load hf.load r hmem).wellFormed
  rw [← MemoryStore.records_ofRecords hids] at hf
  have hstart : Mirrors (MemoryStore.ofRecords L) f m.resumeFrom m.resumeFrom
      (MemoryStore.ofRecords L) f :=
    ⟨rfl, hf.load, rfl, [], canonicalizeAt_nil.symm, List.forall_mem_nil _⟩
  obtain ⟨t, f', events, c, c', hend, hresult⟩ :=
    exists_run_of_inStep (inStep_mirrors m hs hf) hstart
  obtain rfl := hend.cursor
  rcases hresult with ⟨e, hrun, hrun'⟩ | ⟨report, hrun, hrun'⟩
  · exact ⟨t, f', events, .error e, hrun, hrun', hend.load⟩
  · exact ⟨t, f', events, .ok (report.withCursor c), hrun, hrun', hend.load⟩

/-- The file holds the records in another order than the one of their ids. -/
theorem run_interchangeable_mixedRecords :
    ∃ (t : MemoryStore) (f' : FileStore) (events : List MigrationEvent)
      (result : Except Error MigrationReport),
      run ⟨.live, .chunked 1, none⟩ MemoryStore.store (.ofRecords mixedRecords.reverse) =
          (t, events, result) ∧
        run ⟨.live, .chunked 1, none⟩ FileStore.store (.ofRecords "f.json" mixedRecords.reverse) =
          (f', events, result) ∧
        f'.load = .ok t.records := by
  refine run_interchangeable (by decide) (FileStore.keeps_ofRecords "f.json" ?_) _
  simp [mixedRecords, FileStore.documentDepth, Json.bounded_obj_iff, Json.bounded_arr_iff,
    Json.Members.keys, Bounded.str, Bounded.bool]

end Migration

end Catalog
