import Catalog.Proofs.Migration.Memory

/-!
# Runs that report the same

Over a store in memory without malformed records, a run succeeds in every mode and with every
strategy, and its report is told by the records after its cursor alone. So a run without writes
predicts what any live run reports.

## Main definitions

* `Migration.touched`, `Migration.writeCount` — the records that a run makes canonical, and how many
  of them it writes.
* `Migration.Passed` — a run has dealt with the first records of its window.

## Main results

* `Migration.persist_next` — the next records are written, or a write is refused.
* `Migration.Passed.persist`, `Migration.Passed.runChunk` — the next records, none of them refused.
* `Migration.exists_runRecords_passed` — all records, in one transaction or in chunks.
* `Migration.exists_run_passed` — **a run deals with all records of its window**, and reports what
  they tell (`Migration.exists_run_surveys`).
* `Migration.run_agree` — **runs from one cursor report the same.**
-/

namespace Catalog.Migration

variable {m : Migration} {s : MemoryStore} {front b rest : List Record} {last : Record}
  {st : MigrationState MemoryStore} {report : MigrationReport}

/-- The ids of the records that a run makes canonical. -/
def touched (m : Migration) (b : List Record) : List String :=
  match m.mode with
  | .dryRun => []
  | .live => b.map (·.id)

theorem mem_map_id_of_mem_touched {id : String} (h : id ∈ m.touched b) : id ∈ b.map (·.id) := by
  rw [touched] at h
  split at h
  · exact absurd h List.not_mem_nil
  · exact h

theorem touched_append : m.touched (front ++ b) = m.touched front ++ m.touched b := by
  rw [touched, touched, touched]
  split
  · rfl
  · exact List.map_append

/-- How many packages a run writes for records. -/
def writeCount (m : Migration) (b : List Record) : Nat :=
  match m.mode with
  | .dryRun => 0
  | .live => (replacements b).length

@[simp] theorem writeCount_nil (m : Migration) : m.writeCount [] = 0 := by
  rw [writeCount]
  split <;> rfl

theorem writeCount_append : m.writeCount (front ++ b) = m.writeCount front + m.writeCount b := by
  rw [writeCount, writeCount, writeCount]
  split
  · rfl
  · rw [replacements, List.filterMap_append, List.length_append]
    rfl

/-- A run over a store has dealt with the records given. -/
structure Passed (m : Migration) (s : MemoryStore) (front : List Record)
    (st : MigrationState MemoryStore) : Prop where
  documents : st.store.documents = canonicalizeAt (m.touched front) s.documents
  unwritten : m.mode = .dryRun → st.store = s
  writes : st.store.writes = s.writes + m.writeCount front
  written : st.report.written = m.writeCount front
  surveys : st.report.Surveys front
  lastCursor : st.report.lastCursor = (front.getLast?.map (·.id)).or m.resumeFrom

theorem passed_start (m : Migration) (s : MemoryStore) :
    m.Passed s [] ⟨s, .empty m.mode m.strategy m.resumeFrom, []⟩ where
  documents := by
    have hnone : m.touched [] = [] := by
      rw [touched]
      split <;> rfl
    rw [hnone, canonicalizeAt_nil]
  unwritten := fun _ => rfl
  writes := by rw [writeCount_nil, Nat.add_zero]
  written := by rw [writeCount_nil]; rfl
  surveys := MigrationReport.surveys_empty _ _ _
  lastCursor := rfl

/-! ### The next records -/

/-- Writing what was planned for the records of a store, in any mode, if none of it is refused. -/
theorem exists_persist_replacements (refused : List String) (hsorted : s.documents.Sorted)
    (hids : (b.map (·.id)).Nodup) (hwf : ∀ r ∈ b, r.document.WellFormed)
    (hmem : ∀ r ∈ b, s.documents.get? r.id = some r.document)
    (hallowed : m.mode = .live → ∀ p ∈ replacements b, p.id ∉ refused) :
    ∃ s' : MemoryStore,
      m.persist (MemoryStore.refusing refused) s (replacements b) =
        (s', [], .ok (m.writeCount b)) ∧
      s'.documents = canonicalizeAt (m.touched b) s.documents ∧
      s'.writes = s.writes + m.writeCount b ∧ (m.mode = .dryRun → s' = s) := by
  cases hmode : m.mode with
  | dryRun =>
    have hnone : m.writeCount b = 0 := by rw [writeCount, hmode]
    refine ⟨s, ?_, ?_, by rw [hnone, Nat.add_zero], fun _ => rfl⟩
    · simp only [persist, hmode, hnone]
    · rw [touched, hmode, canonicalizeAt_nil]
  | live =>
    have hcount : m.writeCount b = (replacements b).length := by rw [writeCount, hmode]
    have hpersist := persist_replacements refused hmode (hallowed hmode) hsorted hids hwf hmem
    refine ⟨_, by rw [hcount]; exact hpersist, ?_, by rw [hcount], fun hdry => by cases hdry⟩
    rw [touched, hmode]

/-- The next records of a window, after some that a run has dealt with: what was planned for them is
written, unless a write is refused. -/
theorem persist_next (refused : List String) (hs : s.Valid)
    (hnext : (front ++ b).Sublist (window s.records m.resumeFrom none)) {u : MemoryStore}
    (hdocuments : u.documents = canonicalizeAt (m.touched front) s.documents) :
    ((∃ p ∈ replacements b, p.id ∈ refused) ∧ ∃ e,
      m.persist (MemoryStore.refusing refused) u (replacements b) = (u, [], .error e)) ∨
    ∃ s' : MemoryStore,
      m.persist (MemoryStore.refusing refused) u (replacements b) =
        (s', [], .ok (m.writeCount b)) ∧
      s'.documents = canonicalizeAt (m.touched (front ++ b)) s.documents ∧
      s'.writes = u.writes + m.writeCount b ∧ (m.mode = .dryRun → s' = u) := by
  have hrecord : ∀ r ∈ b, r ∈ s.records :=
    fun r hr => (mem_window_iff.mp (hnext.subset (List.mem_append_right _ hr))).1
  have hwf : ∀ r ∈ b, r.document.WellFormed :=
    fun r hr => hs.wellFormed_of_mem_records (hrecord r hr)
  -- no record comes twice, so the next ones are still as they were
  have hnodup := (MemoryStore.nodup_ids_window hs.sorted m.resumeFrom).sublist
    (hnext.map fun r : Record => r.id)
  rw [List.map_append] at hnodup
  obtain ⟨-, hids, hdisjoint⟩ := List.nodup_append.mp hnodup
  have hget : ∀ r ∈ b, u.documents.get? r.id = some r.document := by
    intro r hr
    have hnew : r.id ∉ m.touched front := fun hin =>
      hdisjoint _ (mem_map_id_of_mem_touched hin) _ (List.mem_map_of_mem hr) rfl
    rw [hdocuments, get?_canonicalizeAt, MemoryStore.get?_of_mem_records hs.sorted (hrecord r hr),
      Option.map_some, if_neg hnew]
  have hsorted : u.documents.Sorted := by
    rw [hdocuments]
    exact sorted_canonicalizeAt hs.sorted _
  by_cases hrefused : m.mode = .live ∧ ∃ p ∈ replacements b, p.id ∈ refused
  · obtain ⟨hlive, hrefused⟩ := hrefused
    exact .inl ⟨hrefused,
      persist_refusing_of_mem hlive (isSome_get?_of_mem_replacements hget) hrefused⟩
  · obtain ⟨s', hpersist, hdocuments', hrest⟩ :=
      exists_persist_replacements (m := m) refused hsorted hids hwf hget
        fun hlive p hp hin => hrefused ⟨hlive, p, hp, hin⟩
    refine .inr ⟨s', hpersist, ?_, hrest⟩
    rw [hdocuments', hdocuments, touched_append]
    refine canonicalizeAt_canonicalizeAt fun id hid hin => ?_
    exact hdisjoint _ (mem_map_id_of_mem_touched hin) _ (mem_map_id_of_mem_touched hid) rfl

/-- The records of a window that come next are planned and written. -/
theorem Passed.persist (h : m.Passed s front st) (hs : s.Valid)
    (hsplit : window s.records m.resumeFrom none = front ++ b ++ rest) :
    ∃ s' : MemoryStore,
      m.persist MemoryStore.store st.store (replacements b) = (s', [], .ok (m.writeCount b)) ∧
      s'.documents = canonicalizeAt (m.touched (front ++ b)) s.documents ∧
      (m.mode = .dryRun → s' = s) ∧ s'.writes = s.writes + m.writeCount (front ++ b) ∧
      (b.foldl MigrationReport.scanRecord st.report).Surveys (front ++ b) := by
  have hnext : (front ++ b).Sublist (window s.records m.resumeFrom none) := by
    rw [hsplit]
    exact List.sublist_append_left _ _
  have hmem : ∀ r ∈ b, r ∈ window s.records m.resumeFrom none :=
    fun r hr => hnext.subset (List.mem_append_right _ hr)
  rcases persist_next [] hs hnext h.documents with ⟨⟨p, -, hin⟩, -⟩ | hpersist
  · exact absurd hin List.not_mem_nil
  · rw [MemoryStore.refusing_nil] at hpersist
    obtain ⟨s', hpersist, hdocuments, hwrites, hunwritten⟩ := hpersist
    refine ⟨s', hpersist, hdocuments, fun hdry => ?_, ?_, ?_⟩
    · rw [hunwritten hdry, h.unwritten hdry]
    · rw [hwrites, h.writes, writeCount_append, Nat.add_assoc]
    · exact h.surveys.foldl_scanRecord
        (fun r hr => hs.wellFormed_of_mem_records (mem_window_iff.mp (hmem r hr)).1)
        fun r hr => (mem_window_iff.mp (hmem r hr)).2.1

/-- The records of the next chunk. -/
theorem Passed.runChunk (h : m.Passed s front st) (hs : s.Valid)
    (hsplit : window s.records m.resumeFrom none = front ++ b ++ rest)
    (hplain : ∀ r ∈ b, ¬ r.IsMalformed) (hlast : b.getLast? = some last) (chunk : Nat)
    (firstId : String) : m.Passed s (front ++ b)
      (m.runChunk MemoryStore.store chunk firstId last.id b st) := by
  obtain ⟨s', hpersist, hdocuments, hunwritten, hwrites, hsurveys⟩ := h.persist hs hsplit
  have hplan := planAll_of_not_isMalformed hplain st.report
  simp only [Migration.runChunk, hplan, hpersist]
  exact {
    documents := hdocuments
    unwritten := hunwritten
    writes := hwrites
    written := by
      simp only [MigrationReport.written_foldl_scanRecord, h.written, writeCount_append]
    surveys := hsurveys.withProgress _ _
    lastCursor := by simp [hlast] }

/-! ### All records -/

/-- All records are dealt with in one transaction. -/
theorem exists_runAtomic_passed (hs : s.Valid)
    (hplain : ∀ r ∈ window s.records m.resumeFrom none, ¬ r.IsMalformed) :
    ∃ st, m.runAtomic MemoryStore.store ⟨s, .empty m.mode m.strategy m.resumeFrom, []⟩ =
        (st, .ok ()) ∧ m.Passed s (window s.records m.resumeFrom none) st := by
  have hselect : MemoryStore.store.select s m.resumeFrom none =
      .ok (window s.records m.resumeFrom none) := rfl
  have hplan := planAll_of_not_isMalformed hplain (.empty m.mode m.strategy m.resumeFrom)
  have hall : window s.records m.resumeFrom none =
      [] ++ window s.records m.resumeFrom none ++ [] := by simp
  obtain ⟨s', hpersist, hdocuments, hunwritten, hwrites, hsurveys⟩ :=
    (passed_start m s).persist hs hall
  simp only [runAtomic, hselect, hplan, hpersist]
  refine ⟨_, rfl, hdocuments, hunwritten, hwrites, ?_, hsurveys.withProgress _ _, ?_⟩
  · simp only [MigrationReport.written_foldl_scanRecord]
    exact Nat.zero_add _
  · simp only [MigrationReport.lastCursor_foldl_scanRecord]
    rfl

/-- All records are dealt with in chunks. -/
theorem exists_runChunks_passed (hs : s.Valid)
    (hplain : ∀ r ∈ window s.records m.resumeFrom none, ¬ r.IsMalformed) {n : Nat} (hn : 0 < n) :
    ∃ st, (∀ fuel, (window s.records m.resumeFrom none).length < fuel →
        m.runChunks MemoryStore.store n fuel 0 m.resumeFrom
          ⟨s, .empty m.mode m.strategy m.resumeFrom, []⟩ = (st, .ok ())) ∧
      m.Passed s (window s.records m.resumeFrom none) st := by
  let P : Nat → List Record → MigrationState MemoryStore → Prop := fun _ rest st =>
    ∃ front, window s.records m.resumeFrom none = front ++ rest ∧ m.Passed s front st
  have hstart : P 0 (window s.records m.resumeFrom none)
      ⟨s, .empty m.mode m.strategy m.resumeFrom, []⟩ := ⟨[], rfl, passed_start m s⟩
  have hstep : ∀ {chunk : Nat} {rest : List Record} {st : MigrationState MemoryStore}
      {cursor : Option String} {first last : Record}, P chunk rest st →
      window st.store.records cursor none = rest → (rest.take n).head? = some first →
      (rest.take n).getLast? = some last →
      let st₁ := m.runChunk (MemoryStore.refusing []) chunk first.id last.id (rest.take n) st
      P (chunk + 1) (rest.drop n) st₁ ∧
        window st₁.store.records (some last.id) none = rest.drop n := by
    rintro chunk rest st cursor first last ⟨front, hsplit, hpassed⟩ - - hlast st₁
    have hsplit' : window s.records m.resumeFrom none =
        front ++ rest.take n ++ rest.drop n := by
      rw [hsplit, List.append_assoc, List.take_append_drop]
    have hblock : ∀ r ∈ rest.take n, ¬ r.IsMalformed := by
      intro r hr
      refine hplain r ?_
      rw [hsplit]
      exact List.mem_append_right _ (List.mem_of_mem_take hr)
    have hpassed₁ : m.Passed s (front ++ rest.take n) st₁ := by
      have hchunk := hpassed.runChunk hs hsplit' hblock hlast chunk first.id
      rwa [← MemoryStore.refusing_nil] at hchunk
    refine ⟨⟨_, hsplit', hpassed₁⟩, ?_⟩
    exact MemoryStore.window_after_canonicalizeAt hs.sorted hsplit' (by simp [hlast])
      (fun _ => mem_map_id_of_mem_touched) hpassed₁.documents
  obtain ⟨st, _, hrun, front, hfront, hpassed⟩ := runChunks_induction hn hstep hstart rfl
  rw [MemoryStore.refusing_nil] at hrun
  rw [List.append_nil] at hfront
  exact ⟨st, hrun, by rwa [hfront]⟩

/-- All records are dealt with. -/
theorem exists_runRecords_passed (hs : s.Valid)
    (hplain : ∀ r ∈ window s.records m.resumeFrom none, ¬ r.IsMalformed)
    (hstrategy : m.strategy ≠ .chunked 0) :
    ∃ st, m.runRecords MemoryStore.store ⟨s, .empty m.mode m.strategy m.resumeFrom, []⟩ =
        (st, .ok ()) ∧ m.Passed s (window s.records m.resumeFrom none) st := by
  rw [runRecords]
  split
  · exact exists_runAtomic_passed hs hplain
  · next hzero => exact absurd hzero hstrategy
  · next n hne hchunked =>
    have hn : 0 < n := Nat.pos_of_ne_zero hne
    obtain ⟨st, hrun, hpassed⟩ := exists_runChunks_passed (m := m) hs hplain hn
    refine ⟨st, hrun _ ?_, hpassed⟩
    exact Nat.lt_succ_self _

/-! ### Reports -/

/-- What a live run counts anew is what it made of the records. -/
theorem Passed.window_records (h : m.Passed s (window s.records m.resumeFrom none) st)
    (hlive : m.mode = .live) : window st.store.records m.resumeFrom none =
      (window s.records m.resumeFrom none).map Record.canonicalize := by
  rw [MemoryStore.records_canonicalizeAt h.documents, window_map_canonicalizeIn]
  refine List.map_congr_left fun r hr => ?_
  rw [Record.canonicalizeIn, touched, hlive]
  exact if_pos (List.mem_map_of_mem hr)

/-- **A run deals with all records of its window**, and reports what they tell. -/
theorem exists_run_passed (hs : s.Valid)
    (hplain : ∀ r ∈ window s.records m.resumeFrom none, ¬ r.IsMalformed)
    (hstrategy : m.strategy ≠ .chunked 0) :
    ∃ (st : MigrationState MemoryStore) (events : List MigrationEvent) (report : MigrationReport),
      m.run MemoryStore.store s = (st.store, events, .ok report) ∧
      m.Passed s (window s.records m.resumeFrom none) st ∧
      report.Surveys (window s.records m.resumeFrom none) ∧
      report.lastCursor = st.report.lastCursor ∧ report.written = st.report.written := by
  obtain ⟨st, hrecords, hpassed⟩ := exists_runRecords_passed hs hplain hstrategy
  have hrecount : ∃ report, m.recount MemoryStore.store st = .ok report ∧
      report.Surveys (window s.records m.resumeFrom none) ∧
      report.lastCursor = st.report.lastCursor ∧ report.written = st.report.written := by
    rw [recount]
    cases hmode : m.mode with
    | dryRun => exact ⟨st.report, rfl, hpassed.surveys, rfl, rfl⟩
    | live =>
      refine ⟨_, rfl, ?_, MigrationReport.lastCursor_recount _ _,
        MigrationReport.written_recount _ _⟩
      rw [hpassed.window_records hmode]
      exact hpassed.surveys.recount
  obtain ⟨report, hrecount, hsurveys, hprogress⟩ := hrecount
  obtain ⟨events, hrun⟩ := exists_run_of_recount s hrecords hrecount
  exact ⟨st, events, report, hrun, hpassed, hsurveys, hprogress⟩

/-- **A run reports what the records tell.** -/
theorem exists_run_surveys (hs : s.Valid) (hplain : ∀ r ∈ s.records, ¬ r.IsMalformed)
    (hstrategy : m.strategy ≠ .chunked 0) :
    ∃ (t : MemoryStore) (events : List MigrationEvent) (report : MigrationReport),
      m.run MemoryStore.store s = (t, events, .ok report) ∧
      report.Surveys (window s.records m.resumeFrom none) ∧
      report.lastCursor =
        ((window s.records m.resumeFrom none).getLast?.map (·.id)).or m.resumeFrom ∧
      (m.mode = .dryRun → t = s) := by
  obtain ⟨st, events, report, hrun, hpassed, hsurveys, hcursor, -⟩ :=
    exists_run_passed hs (fun r hr => hplain r (mem_window_iff.mp hr).1) hstrategy
  exact ⟨st.store, events, report, hrun, hsurveys, hcursor.trans hpassed.lastCursor,
    hpassed.unwritten⟩

/-- **Runs from one cursor report the same**, whatever their modes and strategies are, and those
without writes leave the store as it is. -/
theorem run_agree (hs : s.Valid) (hplain : ∀ r ∈ s.records, ¬ r.IsMalformed) (m m' : Migration)
    (hstrategy : m.strategy ≠ .chunked 0) (hstrategy' : m'.strategy ≠ .chunked 0)
    (hcursor : m.resumeFrom = m'.resumeFrom) :
    ∃ (t t' : MemoryStore) (events events' : List MigrationEvent)
      (report report' : MigrationReport),
      m.run MemoryStore.store s = (t, events, .ok report) ∧
      m'.run MemoryStore.store s = (t', events', .ok report') ∧
      report.Agrees report' ∧ report.failures = [] ∧
      (m.mode = .dryRun → t = s) ∧ (m'.mode = .dryRun → t' = s) := by
  obtain ⟨t, events, report, hrun, hsurveys, hlast, hunwritten⟩ :=
    exists_run_surveys (m := m) hs hplain hstrategy
  obtain ⟨t', events', report', hrun', hsurveys', hlast', hunwritten'⟩ :=
    exists_run_surveys (m := m') hs hplain hstrategy'
  rw [← hcursor] at hsurveys' hlast'
  exact ⟨t, t', events, events', report, report', hrun, hrun',
    hsurveys.agrees hsurveys' (hlast.trans hlast'.symm), hsurveys.failures, hunwritten,
    hunwritten'⟩

theorem run_agree_take_mixedRecords :
    ∃ (t t' : MemoryStore) (events events' : List MigrationEvent)
      (report report' : MigrationReport),
      run ⟨.dryRun, .atomic, none⟩ MemoryStore.store
        (MemoryStore.ofRecords (mixedRecords.take 2)) = (t, events, .ok report) ∧
      run ⟨.live, .chunked 1, none⟩ MemoryStore.store
        (MemoryStore.ofRecords (mixedRecords.take 2)) = (t', events', .ok report') ∧
      report.Agrees report' ∧ t = MemoryStore.ofRecords (mixedRecords.take 2) := by
  have hvalid : (MemoryStore.ofRecords (mixedRecords.take 2)).Valid := by
    refine MemoryStore.valid_ofRecords ?_
    simp [mixedRecords, Json.Members.keys, Json.WellFormed.str]
  obtain ⟨t, t', events, events', report, report', hrun, hrun', hagrees, -, hunwritten, -⟩ :=
    run_agree hvalid (by decide) ⟨.dryRun, .atomic, none⟩ ⟨.live, .chunked 1, none⟩ (by decide)
      (by decide) rfl
  exact ⟨t, t', events, events', report, report', hrun, hrun', hagrees, hunwritten rfl⟩

end Catalog.Migration
