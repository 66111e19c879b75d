import Catalog.Proofs.Migration.Agree
import Catalog.Proofs.Migration.InStep

/-!
# Runs from a cursor on

A run from a cursor on does to a store in memory what a run from the start does to the records after
the cursor alone: it notes the same, fails alike or reports the same, and leaves the same documents.
The records up to the cursor stay as they are, whatever becomes of the others.

## Main definitions

* `MemoryStore.after` — the records of a store that come after a cursor.
* `Migration.Resumes` — how far the two runs got, and what their stores hold then.

## Main results

* `Migration.inStep_resumes` — the two runs are in step.
* `Migration.lastCursor_eq_none_iff` — when a run from the start has no last record.
* `Migration.run_resumed` — **a run from a cursor on is a run over the records after it.**
-/

namespace Catalog

variable {s s₀ t : MemoryStore} {cursor : String} {ids : List String} {b : List Record}
  {c c' : Option String} {limit : Option Nat}

namespace MemoryStore

/-- The records of a store that come after a cursor. -/
def after (s : MemoryStore) (cursor : String) : MemoryStore :=
  { s with documents := s.documents.filter fun e => cursor < e.1 }

theorem records_after (s : MemoryStore) (cursor : String) :
    (s.after cursor).records = s.records.filter fun r => cursor < r.id := by
  rw [records, records, after, List.filter_map]
  rfl

theorem Valid.after (hs : s.Valid) (cursor : String) : (s.after cursor).Valid where
  sorted := hs.sorted.filter _
  wellFormed := fun e he => hs.wellFormed e (List.mem_of_mem_filter he)

/-- What is done to a store and to its records after a cursor alone, by making the same documents
canonical, leads to a store and its records after the cursor. -/
theorem eq_after_of_canonicalizeAt {t' : MemoryStore} {n : Nat}
    (hdocuments : t.documents = canonicalizeAt ids s.documents) (hwrites : t.writes = s.writes + n)
    (hdocuments' : t'.documents = canonicalizeAt ids (s.after cursor).documents)
    (hwrites' : t'.writes = (s.after cursor).writes + n) : t' = t.after cursor := by
  have hfilter : (t.after cursor).documents = canonicalizeAt ids (s.after cursor).documents := by
    rw [after, after, hdocuments, canonicalizeAt, canonicalizeAt, List.filter_map]
    rfl
  calc t' = ⟨t'.documents, t'.writes⟩ := rfl
    _ = ⟨(t.after cursor).documents, t.writes⟩ := by rw [hdocuments', hwrites', hfilter, hwrites]; rfl

/-- A document that was not made canonical is as it was. -/
theorem get?_of_canonicalizeAt (h : t.documents = canonicalizeAt ids s.documents) {id : String}
    (hid : id ∉ ids) : t.get? id = s.get? id := by
  rw [get?, get?, h, get?_canonicalizeAt]
  simp only [if_neg hid, Option.map_id']

/-- The records after a cursor, in a window that begins after the cursor. -/
theorem window_records_after (h : ∀ id, isAfter c id = true ↔ cursor < id ∧ isAfter c' id = true)
    (limit : Option Nat) : window (s.after cursor).records c' limit = window s.records c limit := by
  have hall : window (s.after cursor).records c' none = window s.records c none := by
    rw [window, window, records_after, List.filter_filter]
    refine List.filter_congr fun r _ => ?_
    rw [Bool.eq_iff_iff]
    simp only [Bool.and_eq_true, h r.id, decide_eq_true_eq]
    constructor
    · rintro ⟨⟨hsome, hc'⟩, hlt⟩
      exact ⟨hsome, hlt, hc'⟩
    · rintro ⟨hsome, hlt, hc'⟩
      exact ⟨⟨hsome, hc'⟩, hlt⟩
  cases limit with
  | none => exact hall
  | some n => rw [window_some, window_some, hall]

end MemoryStore

namespace Migration

variable {m : Migration} {mode : MigrationMode} {strategy : MigrationStrategy}
  {events : List MigrationEvent} {report : MigrationReport}

/-- What was planned for a window is written, in a live run. -/
theorem exists_persist_window (m : Migration) (hs : s.Valid) (c : Option String)
    (limit : Option Nat) :
    ∃ t : MemoryStore,
      m.persist MemoryStore.store s (replacements (window s.records c limit)) =
        (t, [], .ok (m.writeCount (window s.records c limit))) ∧
      t.documents = canonicalizeAt (m.touched (window s.records c limit)) s.documents ∧
      t.writes = s.writes + m.writeCount (window s.records c limit) := by
  have hrecord : ∀ r ∈ window s.records c limit, r ∈ s.records :=
    fun r hr => window_sublist.subset hr
  obtain ⟨t, hpersist, hdocuments, hwrites, -⟩ := exists_persist_replacements (m := m) [] hs.sorted
    ((MemoryStore.nodup_ids_records hs.sorted).sublist (window_sublist.map _))
    (fun r hr => hs.wellFormed_of_mem_records (hrecord r hr))
    (fun r hr => MemoryStore.get?_of_mem_records hs.sorted (hrecord r hr))
    (fun _ _ _ => List.not_mem_nil)
  rw [MemoryStore.refusing_nil] at hpersist
  exact ⟨t, hpersist, hdocuments, hwrites⟩

/-! ### Two runs in step -/

/-- A run from a cursor on has got to one place in its store, and a run from the start to the same
place in the records after the cursor. -/
structure Resumes (s₀ : MemoryStore) (cursor : String) (c c' : Option String)
    (s s' : MemoryStore) : Prop where
  valid : s.Valid
  store : s' = s.after cursor
  place : c = some cursor ∧ c' = none ∨ ∃ id, cursor < id ∧ c = some id ∧ c' = some id
  keys : s.documents.keys = s₀.documents.keys
  untouched : ∀ id, id ≤ cursor → s.get? id = s₀.get? id

theorem Resumes.isAfter_iff {s' : MemoryStore} (h : Resumes s₀ cursor c c' s s') (id : String) :
    isAfter c id = true ↔ cursor < id ∧ isAfter c' id = true := by
  obtain ⟨rfl, rfl⟩ | ⟨id', hlt, rfl, rfl⟩ := h.place
  · simp [isAfter]
  · simp only [isAfter, decide_eq_true_eq]
    exact ⟨fun hafter => ⟨String.lt_trans hlt hafter, hafter⟩, fun hafter => hafter.2⟩

/-- The place after the next records. -/
theorem Resumes.place_of_getLast? {s' : MemoryStore} {last : Record}
    (h : Resumes s₀ cursor c c' s s') (hlast : (window s.records c limit).getLast? = some last) :
    some last.id = some cursor ∧ some last.id = none ∨
      ∃ id, cursor < id ∧ some last.id = some id ∧ some last.id = some id := by
  have hafter := isAfter_of_mem_window (List.mem_of_getLast? hlast)
  exact Or.inr ⟨last.id, ((h.isAfter_iff last.id).mp hafter).1, rfl, rfl⟩

/-- A run from a cursor on is in step with a run from the start over the records after the
cursor. -/
theorem inStep_resumes (s₀ : MemoryStore) (cursor : String) (mode : MigrationMode)
    (strategy : MigrationStrategy) :
    InStep ⟨mode, strategy, some cursor⟩ ⟨mode, strategy, none⟩ MemoryStore.store MemoryStore.store
      (Resumes s₀ cursor) where
  mode := rfl
  strategy := rfl
  select := by
    intro c c' s s' h limit
    rw [h.store]
    exact congrArg Except.ok (MemoryStore.window_records_after h.isAfter_iff limit).symm
  reselect := by
    intro c c' s s' h
    rw [h.store]
    refine congrArg Except.ok (MemoryStore.window_records_after (fun id => ?_) none).symm
    simp [isAfter]
  skip := by
    intro c c' s s' limit b last h hselect hlast
    obtain rfl := Except.ok.inj hselect
    exact { h with place := h.place_of_getLast? hlast }
  persist := by
    intro c c' s s' limit b last hlive h hselect hlast _
    obtain rfl := Except.ok.inj hselect
    obtain rfl := h.store
    obtain ⟨t, hpersist, hdocuments, hwrites⟩ :=
      exists_persist_window ⟨mode, strategy, some cursor⟩ h.valid c limit
    obtain ⟨t', hpersist', hdocuments', hwrites'⟩ :=
      exists_persist_window ⟨mode, strategy, none⟩ (h.valid.after cursor) c' limit
    rw [MemoryStore.window_records_after h.isAfter_iff] at hpersist' hdocuments' hwrites'
    rw [hpersist, hpersist']
    refine ⟨?_, rfl⟩
    exact {
      valid := h.valid.canonicalizeAt hdocuments
      store := MemoryStore.eq_after_of_canonicalizeAt hdocuments hwrites hdocuments' hwrites'
      place := h.place_of_getLast? hlast
      keys := by rw [hdocuments, keys_canonicalizeAt, h.keys]
      untouched := by
        intro id hid
        -- only records after the cursor are dealt with
        have hnew : id ∉ touched ⟨mode, strategy, some cursor⟩ (window s.records c limit) := by
          intro hin
          obtain ⟨r, hr, rfl⟩ := List.mem_map.mp (mem_map_id_of_mem_touched hin)
          have hafter := (h.isAfter_iff r.id).mp (isAfter_of_mem_window hr)
          exact String.not_lt.mpr hid hafter.1
        rw [MemoryStore.get?_of_canonicalizeAt hdocuments hnew, h.untouched id hid] }

/-! ### The last record -/

theorem isSome_lastCursor_runChunks {σ τ : Type} {store : RecordStore σ τ} {st : MigrationState σ}
    (h : st.report.lastCursor.isSome) (n fuel chunk : Nat) (c : Option String) :
    (m.runChunks store n fuel chunk c st).1.report.lastCursor.isSome := by
  induction fuel generalizing st chunk c with
  | zero => exact h
  | succ fuel ih =>
    rw [runChunks]
    split
    · exact h
    · split
      · next last _ _ =>
        have hnext : ∀ records firstId, (m.runChunk store chunk firstId last.id records
            st).report.lastCursor.isSome := by
          intro records firstId
          rw [lastCursor_runChunk]
          rfl
        dsimp only
        split
        · exact hnext _ _
        · exact ih (hnext _ _) _ _
      · exact h

/-- A run in chunks has a last record when there are any. -/
theorem isSome_lastCursor_of_ne_nil {σ τ : Type} {store : RecordStore σ τ} {n : Nat}
    (st : MigrationState σ) (hselect : store.select st.store c (some n) = .ok b) (hne : b ≠ [])
    (fuel chunk : Nat) :
    (m.runChunks store n (fuel + 1) chunk c st).1.report.lastCursor.isSome := by
  obtain ⟨first, last, hfirst, hlast⟩ := exists_head?_getLast? hne
  have hnext : (m.runChunk store chunk first.id last.id b st).report.lastCursor.isSome := by
    rw [lastCursor_runChunk]
    rfl
  rw [runChunks_of_ne_nil hselect hfirst hlast]
  split
  · exact hnext
  · exact isSome_lastCursor_runChunks hnext _ _ _ _

/-- The last record of a run in one transaction is the last one of its window. -/
theorem lastCursor_runAtomic {st : MigrationState MemoryStore}
    (h : m.runAtomic MemoryStore.store ⟨s, .empty m.mode m.strategy m.resumeFrom, []⟩ =
      (st, .ok ())) :
    st.report.lastCursor =
      ((window s.records m.resumeFrom none).getLast?.map (·.id)).or m.resumeFrom := by
  have hselect : MemoryStore.store.select s m.resumeFrom none =
      .ok (window s.records m.resumeFrom none) := rfl
  simp only [runAtomic, hselect] at h
  split at h
  · cases h
  · next planned report hplan =>
    rw [planAll_of_not_isMalformed (planAll_eq_ok hplan).1] at hplan
    obtain ⟨-, rfl⟩ := Prod.mk.inj (Except.ok.inj hplan)
    split at h
    · cases h
    · obtain rfl := (Prod.mk.inj h).1
      simp only [MigrationReport.lastCursor_foldl_scanRecord]
      rfl

/-- A run from the start has no last record when there is none with packages. -/
theorem lastCursor_eq_none_iff
    (h : run ⟨mode, strategy, none⟩ MemoryStore.store s = (t, events, .ok report)) :
    report.lastCursor = none ↔ ∀ r ∈ s.records, r.packages? = none := by
  have hempty : window s.records none none = [] ↔ ∀ r ∈ s.records, r.packages? = none := by
    simp [window, isAfter]
  obtain ⟨st, hrecords, -, hrecount⟩ := exists_runRecords_of_run s h
  have hlast : report.lastCursor = st.report.lastCursor := by
    rw [recount] at hrecount
    split at hrecount
    · rw [Except.ok.inj hrecount]
    · obtain rfl := Except.ok.inj hrecount
      exact MigrationReport.lastCursor_recount _ _
  rw [hlast, ← hempty]
  rw [runRecords] at hrecords
  split at hrecords
  · rw [lastCursor_runAtomic hrecords]
    simp
  · cases hrecords
  · next n hn _ =>
    have hselect : MemoryStore.store.select s none (some n) =
        .ok ((window s.records none none).take n) := rfl
    have hfuel : chunkBound ⟨mode, strategy, none⟩ MemoryStore.store s =
        (window s.records none none).length + 1 := rfl
    rw [hfuel] at hrecords
    by_cases hwindow : window s.records none none = []
    · rw [hwindow, List.take_nil] at hselect
      rw [runChunks_of_nil hselect] at hrecords
      obtain rfl := (Prod.mk.inj hrecords).1
      exact iff_of_true rfl hwindow
    · have hne : (window s.records none none).take n ≠ [] := by
        rw [Ne, List.take_eq_nil_iff, not_or]
        exact ⟨hn, hwindow⟩
      have hsome := isSome_lastCursor_of_ne_nil (m := ⟨mode, strategy, none⟩)
        ⟨s, .empty mode strategy none, []⟩ hselect hne (window s.records none none).length 0
      rw [hrecords] at hsome
      exact iff_of_false (Option.isSome_iff_ne_none.mp hsome) hwindow

/-- **A run from a cursor on is a run over the records after it.** -/
theorem run_resumed (hs : s.Valid) (cursor : String) (mode : MigrationMode)
    (strategy : MigrationStrategy) :
    ∃ (t : MemoryStore) (events : List MigrationEvent) (result : Except Error MigrationReport),
      run ⟨mode, strategy, some cursor⟩ MemoryStore.store s =
        (t, events, result.map fun report =>
          report.withCursor (report.lastCursor.or (some cursor))) ∧
      run ⟨mode, strategy, none⟩ MemoryStore.store (s.after cursor) =
        (t.after cursor, events, result) ∧
      (∀ report, result = .ok report → (report.lastCursor = none ↔
        ∀ r ∈ s.records, cursor < r.id → r.packages? = none)) ∧
      t.documents.keys = s.documents.keys ∧ ∀ id, id ≤ cursor → t.get? id = s.get? id := by
  have hstart : Resumes s cursor (some cursor) none s (s.after cursor) :=
    ⟨hs, rfl, Or.inl ⟨rfl, rfl⟩, rfl, fun _ _ => rfl⟩
  obtain ⟨t, t', events, c, c', hend, hresult⟩ :=
    exists_run_of_inStep (inStep_resumes s cursor mode strategy) hstart
  obtain rfl := hend.store
  have hplace : c = c'.or (some cursor) := by
    obtain ⟨rfl, rfl⟩ | ⟨id, -, rfl, rfl⟩ := hend.place <;> rfl
  rcases hresult with ⟨e, hrun, hrun'⟩ | ⟨report, hrun, hrun'⟩
  · refine ⟨t, events, .error e, hrun, hrun', ?_, hend.keys, hend.untouched⟩
    intro report hreport
    cases hreport
  · refine ⟨t, events, .ok (report.withCursor c'), ?_, hrun', ?_, hend.keys, hend.untouched⟩
    · rw [hrun, hplace]
      rfl
    · intro report' hreport
      obtain rfl := Except.ok.inj hreport
      rw [lastCursor_eq_none_iff hrun', MemoryStore.records_after]
      simp

/-- The first record would change, but comes before the cursor. -/
theorem run_resumed_mixedRecords :
    ∃ (t : MemoryStore) (events : List MigrationEvent) (result : Except Error MigrationReport),
      run ⟨.live, .chunked 1, some "a"⟩ MemoryStore.store (MemoryStore.ofRecords mixedRecords) =
        (t, events, result.map fun report =>
          report.withCursor (report.lastCursor.or (some "a"))) ∧
      run ⟨.live, .chunked 1, none⟩ MemoryStore.store
        ((MemoryStore.ofRecords mixedRecords).after "a") = (t.after "a", events, result) ∧
      t.get? "a" = (MemoryStore.ofRecords mixedRecords).get? "a" := by
  obtain ⟨t, events, result, hrun, hrun', -, -, huntouched⟩ :=
    run_resumed valid_mixedRecords "a" .live (.chunked 1)
  exact ⟨t, events, result, hrun, hrun', huntouched "a" (String.le_refl "a")⟩

end Migration

end Catalog
