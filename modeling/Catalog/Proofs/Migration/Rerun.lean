import Catalog.Proofs.Migration.Agree

/-!
# Running a migration again

A live run that reports no failure has met no malformed record, so it made all records of its window
canonical. When the same migration is run again, its window holds the same ids, it finds what the
run before counted as left, and it writes just the records that are still no fixed points. Where
canonicalization is idempotent on the stored packages, there are none.

## Main definitions

* `Migration.changing` — the records of a window that canonicalization changes.
* `MigrationReport.Continues` — a report begins with what another one left.

## Main results

* `Migration.not_isMalformed_of_run` — a run without failures met no malformed record.
* `Tallies.map_get?_eq` — the counts of a run begin with those that the run before left.
* `Migration.run_again` — **the second run of a migration.**
-/

namespace Catalog

open MigrationReport (Surveys)

variable {b : List Record} {r : Record}

/-! ### What is left to change -/

/-- Without changes there is no difference. -/
theorem Record.diff?_eq_none (hwf : r.document.WellFormed) (h : ¬ r.Changes) : r.diff? = none := by
  have hnone : r.replacement? = none := by
    by_contra hsome
    exact h ((exists_replacement?_iff hwf).mp (Option.ne_none_iff_exists'.mp hsome))
  rw [diff?, hnone]
  cases r.packages? <;> rfl

/-- A record that does not change is canonical. -/
theorem Record.canonicalizeDocument_of_not_changes (h : ¬ r.Changes) :
    canonicalizeDocument r.document = r.document :=
  canonicalizeDocument_eq_self fun v hv => by_contra fun hne => h ⟨v, hv, hne⟩

/-- A canonical record does not change, if canonicalization is idempotent on its packages. -/
theorem Record.not_changes_canonicalize (h : ∀ v, r.packages? = some v →
    canonicalizePackages (canonicalizePackages v) = canonicalizePackages v) :
    ¬ r.canonicalize.Changes := by
  rintro ⟨w, hw, hne⟩
  obtain ⟨v, hv⟩ : ∃ v, r.packages? = some v := by
    rw [← Option.isSome_iff_exists, ← isSome_packages?_canonicalize, hw]
    rfl
  obtain rfl := Option.some.inj (hw.symm.trans (packages?_canonicalize hv))
  exact hne (h v hv)

/-- A canonical record is malformed only if the record was. -/
theorem Record.not_isMalformed_canonicalize (h : ¬ r.IsMalformed) :
    ¬ r.canonicalize.IsMalformed := by
  rintro ⟨w, hw, hno⟩
  obtain ⟨v, hv⟩ : ∃ v, r.packages? = some v := by
    rw [← Option.isSome_iff_exists, ← isSome_packages?_canonicalize, hw]
    rfl
  obtain ⟨xs, rfl⟩ := packages?_of_not_isMalformed h hv
  exact hno _ (Option.some.inj (hw.symm.trans (packages?_canonicalize hv)))

/-- There is one write for each record that changes. -/
theorem length_replacements (hwf : ∀ r ∈ b, r.document.WellFormed) :
    (replacements b).length = b.countP fun r => r.Changes := by
  rw [replacements, List.length_filterMap_eq_countP]
  refine List.countP_congr fun r hr => ?_
  rw [Option.isSome_map, Option.isSome_iff_exists, Record.exists_replacement?_iff (hwf r hr),
    decide_eq_true_eq]

/-- Canonicalization keeps the registry types of all packages. -/
theorem map_fst_censusOf_canonicalize (hwf : ∀ r ∈ b, r.document.WellFormed) :
    (censusOf (b.map Record.canonicalize)).map (·.1) = (censusOf b).map (·.1) := by
  rw [censusOf, censusOf, List.flatMap_map, List.map_flatMap, List.map_flatMap]
  refine List.flatMap_congr fun r hr => ?_
  cases hv : r.packages? with
  | none =>
    have hnone : r.canonicalize.packages? = none := by
      rw [← Option.not_isSome_iff_eq_none, Record.isSome_packages?_canonicalize, hv]
      exact Bool.false_ne_true
    rw [Record.census, Record.census, hv, hnone]
  | some v =>
    rw [Record.census_eq hv, Record.census_canonicalize hv,
      map_fst_census_canonicalizePackages (Record.wellFormed_of_packages? (hwf r hr) hv)]

/-- The counts of a run begin with those that the run before left. -/
theorem Tallies.map_get?_eq {t t' : Table TypeCounts} {before after later : List (String × Bool)}
    (h : Tallies t before after) (h' : Tallies t' after later)
    (htypes : after.map (·.1) = before.map (·.1)) (type : String) :
    (t'.get? type).map (fun c => (c.packages, c.legacyBefore)) =
      (t.get? type).map fun c => (c.packages, c.legacyAfter) := by
  have hcount : after.countP (·.1 = type) = before.countP (·.1 = type) := by
    have hboth := congrArg (List.countP (· = type)) htypes
    rwa [List.countP_map, List.countP_map] at hboth
  rw [h.get?_eq, h'.get?_eq, typeCounts, typeCounts, htypes]
  split
  · rw [Option.map_some, Option.map_some, hcount]
  · rfl

/-! ### Two reports -/

/-- A report begins with what another one left: as many legacy records, and for each registry type
as many packages and legacy ones. -/
structure MigrationReport.Continues (report' report : MigrationReport) : Prop where
  legacyBefore : report'.legacyBefore = report.legacyAfter
  types : ∀ type, (report'.types.get? type).map (fun c => (c.packages, c.legacyBefore)) =
    (report.types.get? type).map fun c => (c.packages, c.legacyAfter)

/-- What is told by canonical records continues what was told by the records before. -/
theorem MigrationReport.Surveys.continues {report report' : MigrationReport}
    (h : report.Surveys b) (h' : report'.Surveys (b.map Record.canonicalize))
    (hwf : ∀ r ∈ b, r.document.WellFormed) : report'.Continues report where
  legacyBefore := h'.legacyBefore.trans h.legacyAfter.symm
  types := h.types.map_get?_eq h'.types (map_fst_censusOf_canonicalize hwf)

namespace Migration

variable {m : Migration} {s t : MemoryStore} {events : List MigrationEvent}
  {report : MigrationReport} {st : MigrationState MemoryStore}

/-! ### The first run -/

/-- Where no block is rolled back, no record is malformed. -/
theorem not_isMalformed_of_rolledBack {refused : List String} {n chunk : Nat} (hn : 0 < n)
    (h : rolledBack refused chunk (blocks n b) = []) : ∀ r ∈ b, ¬ r.IsMalformed := by
  intro r hr hmalformed
  rw [← flatten_blocks hn b] at hr
  obtain ⟨c, hc, hrc⟩ := List.mem_flatten.mp hr
  obtain ⟨e, he, rfl⟩ : ∃ e ∈ (blocks n b).zipIdx chunk, e.1 = c := by
    rw [← List.zipIdx_map_fst chunk (blocks n b)] at hc
    exact List.mem_map.mp hc
  rw [rolledBack, List.map_eq_nil_iff, List.filter_eq_nil_iff] at h
  exact h e he (decide_eq_true ⟨r, hrc, Or.inl hmalformed⟩)

/-- A run without failures met no malformed record, and had chunks of some size. -/
theorem not_isMalformed_of_run (hs : s.Valid) (hlive : m.mode = .live)
    (h : m.run MemoryStore.store s = (t, events, .ok report)) (hnone : report.failures = []) :
    (∀ r ∈ window s.records m.resumeFrom none, ¬ r.IsMalformed) ∧ m.strategy ≠ .chunked 0 := by
  obtain ⟨st, hrecords, -, hrecount⟩ := exists_runRecords_of_run s h
  have hfailures : st.report.failures = [] := by
    simp only [recount, hlive] at hrecount
    obtain rfl := Except.ok.inj hrecount
    rwa [MigrationReport.failures_recount] at hnone
  rw [runRecords] at hrecords
  split at hrecords
  · next hatomic =>
    refine ⟨?_, by simp [hatomic]⟩
    have hselect : MemoryStore.store.select s m.resumeFrom none =
        .ok (window s.records m.resumeFrom none) := rfl
    simp only [runAtomic, hselect] at hrecords
    split at hrecords
    · cases hrecords
    · next hplan => exact (planAll_eq_ok hplan).1
  · cases hrecords
  · next n hne hchunked =>
    have hn : 0 < n := Nat.pos_of_ne_zero hne
    refine ⟨?_, by rw [hchunked]; exact fun hzero => hne (MigrationStrategy.chunked.inj hzero)⟩
    have hwf : ∀ r ∈ window s.records m.resumeFrom none, r.document.WellFormed :=
      fun r hr => hs.wellFormed_of_mem_records (mem_window_iff.mp hr).1
    obtain ⟨st', hrun, hleaves⟩ := runChunks_refusing (m := m) [] hlive hn
      ⟨s, .empty m.mode m.strategy m.resumeFrom, []⟩ hs.sorted rfl hwf 0
    have hbound := hrun (m.chunkBound MemoryStore.store s) (Nat.lt_succ_self _)
    rw [MemoryStore.refusing_nil] at hbound
    obtain rfl := (Prod.mk.inj (hrecords.symm.trans hbound)).1
    -- the failures that were reported are the blocks that were rolled back
    have hback := hleaves.failures
    rw [hfailures] at hback
    exact not_isMalformed_of_rolledBack hn hback.symm

/-- The store after a run is valid. -/
theorem Passed.valid {front : List Record} (h : m.Passed s front st) (hs : s.Valid) :
    st.store.Valid :=
  hs.canonicalizeAt h.documents

/-! ### The second run -/

/-- The records of a window that canonicalization changes. -/
def changing (m : Migration) (s : MemoryStore) : List Record :=
  (window s.records m.resumeFrom none).filter fun r => r.Changes

theorem writeCount_window (hs : s.Valid) (hlive : m.mode = .live) :
    m.writeCount (window s.records m.resumeFrom none) = (m.changing s).length := by
  simp only [writeCount, hlive]
  rw [changing, ← List.countP_eq_length_filter]
  exact length_replacements fun r hr => hs.wellFormed_of_mem_records (mem_window_iff.mp hr).1

/-- Making a window canonical changes the records that change. -/
theorem canonicalizeAt_changing (hs : s.Valid) :
    canonicalizeAt ((window s.records m.resumeFrom none).map (·.id)) s.documents =
      canonicalizeAt ((m.changing s).map (·.id)) s.documents := by
  refine List.map_congr_left fun e he => Prod.ext rfl ?_
  dsimp only
  by_cases hchanging : e.1 ∈ (m.changing s).map (·.id)
  · obtain ⟨r, hr, hid⟩ := List.mem_map.mp hchanging
    rw [if_pos hchanging, if_pos]
    exact List.mem_map.mpr ⟨r, (List.mem_filter.mp hr).1, hid⟩
  · rw [if_neg hchanging]
    split
    · next hwindow =>
      obtain ⟨r, hr, hid⟩ := List.mem_map.mp hwindow
      -- the record with the id is the one in the table
      have hdocument : r.document = e.2 := by
        have hget := MemoryStore.get?_of_mem_records hs.sorted (mem_window_iff.mp hr).1
        rw [hid, hs.sorted.get?_of_mem he] at hget
        exact (Option.some.inj hget).symm
      rw [← hdocument]
      refine Record.canonicalizeDocument_of_not_changes fun hchanges => hchanging ?_
      exact List.mem_map.mpr ⟨r, List.mem_filter.mpr ⟨hr, decide_eq_true hchanges⟩, hid⟩
    · rfl

/-- **The second run of a migration.** It has no failures either and begins with what the first run
left. It writes just the records of its window that are no fixed points of canonicalization, each
once; there are none, and nothing is changed or reported, when canonicalization is idempotent on the
packages that were stored before the first run. -/
theorem run_again (hs : s.Valid) (hlive : m.mode = .live)
    (h : m.run MemoryStore.store s = (t, events, .ok report)) (hnone : report.failures = []) :
    ∃ (u : MemoryStore) (events' : List MigrationEvent) (report' : MigrationReport),
      m.run MemoryStore.store t = (u, events', .ok report') ∧
      report'.failures = [] ∧ report'.Continues report ∧
      u.documents = canonicalizeAt ((m.changing t).map (·.id)) t.documents ∧
      u.writes = t.writes + (m.changing t).length ∧
      report'.written = (m.changing t).length ∧ report'.changed = (m.changing t).length ∧
      ((∀ r ∈ window s.records m.resumeFrom none, ∀ v, r.packages? = some v →
          canonicalizePackages (canonicalizePackages v) = canonicalizePackages v) →
        u = t ∧ report'.written = 0 ∧ report'.changed = 0 ∧ report'.diffs = []) := by
  obtain ⟨hplain, hstrategy⟩ := not_isMalformed_of_run hs hlive h hnone
  obtain ⟨st, _, _, hrun, hpassed, hsurveys, -, -⟩ := exists_run_passed hs hplain hstrategy
  obtain ⟨rfl, hresult⟩ := Prod.mk.inj (h.symm.trans hrun)
  obtain rfl := Except.ok.inj (Prod.mk.inj hresult).2
  have ht := hpassed.valid hs
  have hwindow := hpassed.window_records hlive
  have hplain' : ∀ r ∈ window st.store.records m.resumeFrom none, ¬ r.IsMalformed := by
    rw [hwindow]
    intro r hr
    obtain ⟨q, hq, rfl⟩ := List.mem_map.mp hr
    exact Record.not_isMalformed_canonicalize (hplain q hq)
  obtain ⟨st', events', report', hrun', hpassed', hsurveys', -, hwritten⟩ :=
    exists_run_passed ht hplain' hstrategy
  have hcount := writeCount_window ht hlive
  have hdocuments : st'.store.documents =
      canonicalizeAt ((m.changing st.store).map (·.id)) st.store.documents := by
    rw [hpassed'.documents, ← canonicalizeAt_changing ht, touched, hlive]
  have hwrites : st'.store.writes = st.store.writes + (m.changing st.store).length := by
    rw [hpassed'.writes, hcount]
  have hwritten' : report'.written = (m.changing st.store).length := by
    rw [hwritten, hpassed'.written, hcount]
  have hchanged : report'.changed = (m.changing st.store).length := by
    rw [hsurveys'.changed, List.countP_eq_length_filter, changing]
  refine ⟨st'.store, events', report', hrun', hsurveys'.failures, ?_, hdocuments, hwrites,
    hwritten', hchanged, fun hidempotent => ?_⟩
  · rw [hwindow] at hsurveys'
    exact hsurveys.continues hsurveys' fun r hr =>
      hs.wellFormed_of_mem_records (mem_window_iff.mp hr).1
  · have hfixed : ∀ r ∈ window st.store.records m.resumeFrom none, ¬ r.Changes := by
      rw [hwindow]
      intro r hr
      obtain ⟨q, hq, rfl⟩ := List.mem_map.mp hr
      exact Record.not_changes_canonicalize (hidempotent q hq)
    have hnothing : m.changing st.store = [] := by
      rw [changing, List.filter_eq_nil_iff]
      simpa using hfixed
    rw [hnothing] at hdocuments hwrites hwritten' hchanged
    rw [List.map_nil, canonicalizeAt_nil] at hdocuments
    have hsame : st'.store = st.store := by
      calc st'.store = ⟨st'.store.documents, st'.store.writes⟩ := rfl
        _ = ⟨st.store.documents, st.store.writes⟩ := by rw [hdocuments, hwrites]; rfl
    refine ⟨hsame, hwritten', hchanged, ?_⟩
    rw [hsurveys'.diffs, List.filterMap_eq_nil_iff]
    intro r hr
    exact Record.diff?_eq_none (ht.wellFormed_of_mem_records (mem_window_iff.mp hr).1)
      (hfixed r hr)

theorem run_again_take_mixedRecords :
    ∃ (t : MemoryStore) (events events' : List MigrationEvent) (report report' : MigrationReport),
      run ⟨.live, .chunked 1, some "0"⟩ MemoryStore.store
        (MemoryStore.ofRecords (mixedRecords.take 2)) = (t, events, .ok report) ∧
      run ⟨.live, .chunked 1, some "0"⟩ MemoryStore.store t = (t, events', .ok report') ∧
      report'.Continues report ∧ report'.written = 0 := by
  have hvalid : (MemoryStore.ofRecords (mixedRecords.take 2)).Valid := by
    refine MemoryStore.valid_ofRecords ?_
    simp [mixedRecords, Json.Members.keys, Json.WellFormed.str]
  obtain ⟨st, events, report, hrun, -, hsurveys, -, -⟩ :=
    exists_run_passed (m := ⟨.live, .chunked 1, some "0"⟩) hvalid (by decide) (by simp)
  obtain ⟨u, events', report', hrun', -, hcontinues, -, -, -, -, hsame⟩ :=
    run_again hvalid rfl hrun hsurveys.failures
  obtain ⟨rfl, hwritten, -, -⟩ := hsame <| by
    intro r hr v hv
    have hmem : r ∈ mixedRecords.take 2 := (mem_window_iff.mp hr).1
    rcases List.mem_cons.mp hmem with rfl | hmem
    · obtain rfl := Option.some.inj hv
      decide
    · obtain rfl := List.mem_singleton.mp hmem
      obtain rfl := Option.some.inj hv
      decide
  exact ⟨_, events, events', report, report', hrun, hrun', hcontinues, hwritten⟩

end Migration

end Catalog
