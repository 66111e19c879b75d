import Catalog.Proofs.Migration.Diff
import Catalog.Proofs.Migration.Rerun
import Catalog.Proofs.Migration.Total

/-!
# What a report accounts for

A chunk that fails is rolled back, in the store and in the report: only the failure itself and the
cursor stay. So the counters of a report are those of the records that were kept, the selected ones
outside of all chunks that failed, and they agree with each other, with the differences listed and
with the store. This holds for every mode, strategy and cursor, also if some records cannot be
written.

## Main definitions

* `MigrationReport.Lost`, `MigrationReport.kept` — records in chunks that failed, and the others.
* `Migration.Counted` — what the store and the counters are after some records were kept.
* `MigrationReport.Accounts` — the figures of a report agree with each other and with the store.

## Main results

* `Record.isSome_diff?_iff` — a record has differences just when canonicalization changes it.
* `Migration.Counted.runChunk`, `Migration.counted_of_runAtomic` — one transaction.
* `Migration.exists_countedUpTo_of_runChunks` — chunk after chunk.
* `Migration.run_accounts` — **what a report accounts for.**
-/

namespace Catalog

open MigrationReport (Surveys)

variable {b front rs : List Record} {r : Record} {d : RecordDiff} {report : MigrationReport}

/-! ### The differences of a record -/

/-- A record has differences just when canonicalization changes it. -/
theorem Record.isSome_diff?_iff (hwf : r.document.WellFormed) : r.diff?.isSome ↔ r.Changes := by
  constructor
  · intro hsome
    by_contra hsame
    rw [diff?_eq_none hwf hsame] at hsome
    cases hsome
  · intro hchanges
    obtain ⟨v, hv⟩ := (exists_replacement?_iff hwf).mpr hchanges
    obtain ⟨xs, hxs, rfl, hne⟩ := (replacement?_eq_some_iff hwf).mp hv
    have hold : (Json.arr xs).WellFormed := wellFormed_of_packages? hwf hxs
    have hnew : (canonicalizePackages (.arr xs)).WellFormed :=
      (bounded_canonicalizePackages (hold.bounded (Nat.le_add_right _ 3))).wellFormed
    rw [diff?, hxs, Option.bind_some, hv, Option.bind_some, Option.isSome_iff_ne_none]
    intro hnone
    -- arrays without differences are equal as values, and then nothing is written
    refine hne ((canonicalizePackages_same_iff hold).mp ?_)
    rw [Json.same_iff hnew hold]
    rw [canonicalizePackages] at hnew hnone ⊢
    rw [diffPackages_eq_none_iff, diffElements_eq_nil_iff (Json.wellFormed_arr_iff.mp hold)
      (Json.wellFormed_arr_iff.mp hnew), ← Json.equal_arr_iff] at hnone
    exact hold.equal_symm hnone

/-- The differences of a record name it. -/
theorem Record.recordId_of_diff? (h : r.diff? = some d) : d.recordId = r.id := by
  obtain ⟨v, -, h⟩ := Option.bind_eq_some_iff.mp h
  obtain ⟨w, -, h⟩ := Option.bind_eq_some_iff.mp h
  rw [diffPackages] at h
  split at h
  · cases h
  · obtain rfl := Option.some.inj h
    rfl

/-- There is one list of differences for each record that changes. -/
theorem length_filterMap_diff? (hwf : ∀ r ∈ b, r.document.WellFormed) :
    (b.filterMap Record.diff?).length = b.countP fun r => r.Changes := by
  rw [List.length_filterMap_eq_countP]
  refine List.countP_congr fun r hr => ?_
  rw [Record.isSome_diff?_iff (hwf r hr), decide_eq_true_eq]

/-- The differences of records come in the order of the records. -/
theorem pairwise_recordId_diff? (h : b.Pairwise fun q r => q.id < r.id) :
    ((b.filterMap Record.diff?).map (·.recordId)).Pairwise (· < ·) := by
  rw [List.pairwise_map]
  refine h.filterMap _ fun q r hlt d hd e he => ?_
  rwa [Record.recordId_of_diff? hd, Record.recordId_of_diff? he]

/-! ### The packages of a record -/

namespace Record

/-- The elements of the packages, if they are an array. -/
def elements (r : Record) : List Json := r.packages?.elim [] Json.items

theorem census_eq_map (r : Record) : r.census = r.elements.map fun item =>
    ((item.members.string? "registryType").getD "unknown", isLegacyDocument item) := by
  rw [census, elements]
  cases r.packages? <;> rfl

theorem length_census (r : Record) : r.census.length = r.elements.length := by
  rw [census_eq_map, List.length_map]

theorem hasLegacy_iff : r.HasLegacy ↔ r.elements.any isLegacyDocument = true := by
  rw [HasLegacy, census_eq_map, List.any_eq_true]
  simp

end Record

/-! ### Chunks that failed -/

namespace MigrationReport

/-- The record was in a chunk that failed: its id is among those that a failure reports. -/
def Lost (report : MigrationReport) (id : String) : Prop :=
  ∃ f ∈ report.failures, f.firstId ≤ id ∧ id ≤ f.lastId

instance (report : MigrationReport) (id : String) : Decidable (report.Lost id) :=
  inferInstanceAs (Decidable (∃ f ∈ report.failures, f.firstId ≤ id ∧ id ≤ f.lastId))

/-- The records outside of the chunks that failed. -/
def kept (report : MigrationReport) (b : List Record) : List Record :=
  b.filter fun r => ¬ report.Lost r.id

theorem kept_sublist : (report.kept b).Sublist b := List.filter_sublist

theorem kept_append (report : MigrationReport) (front b : List Record) :
    report.kept (front ++ b) = report.kept front ++ report.kept b := List.filter_append ..

theorem not_lost_of_mem_kept (h : r ∈ report.kept b) : ¬ report.Lost r.id := by
  simpa using (List.mem_filter.mp h).2

theorem kept_eq_self (h : report.failures = []) (b : List Record) : report.kept b = b := by
  rw [kept, List.filter_eq_self]
  simp [Lost, h]

theorem kept_congr {report' : MigrationReport} (h : report'.failures = report.failures)
    (b : List Record) : report'.kept b = report.kept b := by
  have hlost : ∀ id, report'.Lost id ↔ report.Lost id := fun id => by rw [Lost, Lost, h]
  simp only [kept, hlost]

/-- One more chunk failed, behind the records in front of it: nothing else is lost. -/
theorem kept_append_of_failed {report' : MigrationReport} {f : ChunkFailure}
    (h : report'.failures = report.failures ++ [f]) (hfront : ∀ r ∈ front, r.id < f.firstId)
    (hb : ∀ r ∈ b, f.firstId ≤ r.id ∧ r.id ≤ f.lastId) :
    report'.kept (front ++ b) = report.kept front := by
  have hlost : ∀ id, report'.Lost id ↔ report.Lost id ∨ f.firstId ≤ id ∧ id ≤ f.lastId := by
    intro id
    simp only [Lost, h, List.mem_append, List.mem_singleton, or_and_right, exists_or,
      exists_eq_left]
  have hbnone : report'.kept b = [] := by
    rw [kept, List.filter_eq_nil_iff]
    intro r hr
    simpa using (hlost r.id).mpr (.inr (hb r hr))
  rw [kept_append, hbnone, List.append_nil, kept, kept]
  refine List.filter_congr fun r hr => ?_
  have hnot : ¬ f.firstId ≤ r.id := String.not_le.mpr (hfront r hr)
  simp [hlost, hnot]

/-- What was not kept is lost. -/
theorem length_kept_add (report : MigrationReport) (b : List Record) :
    (report.kept b).length + b.countP (fun r => report.Lost r.id) = b.length := by
  have hcount := b.length_eq_countP_add_countP fun r => decide (report.Lost r.id)
  rw [kept, ← List.countP_eq_length_filter]
  simp only [decide_eq_true_eq] at hcount
  omega

/-- Planning does not depend on the failures so far. -/
theorem foldl_scanRecord_failures (b : List Record) (report : MigrationReport)
    (failures : List ChunkFailure) : b.foldl scanRecord { report with failures := failures } =
      { b.foldl scanRecord report with failures := failures } := by
  induction b generalizing report with
  | nil => rfl
  | cons r b ih =>
    have hscan : scanRecord { report with failures := failures } r =
        { scanRecord report r with failures := failures } := by
      rw [scanRecord, scanRecord]
      cases r.packages? with
      | none => rfl
      | some v => cases hr : r.replacement? <;> rfl
    rw [List.foldl_cons, List.foldl_cons, hscan, ih]

end MigrationReport

namespace Migration

variable {m : Migration} {s s' : MemoryStore} {st st' : MigrationState MemoryStore}
  {refused : List String} {events : List MigrationEvent} {chunk n : Nat}

/-- The records that a run deals with. -/
def selected (m : Migration) (s : MemoryStore) : List Record := window s.records m.resumeFrom none

theorem mem_records_of_mem_selected (h : r ∈ m.selected s) : r ∈ s.records :=
  (mem_window_iff.mp h).1

theorem wellFormed_of_mem_selected (hs : s.Valid) (h : r ∈ m.selected s) :
    r.document.WellFormed :=
  hs.wellFormed_of_mem_records (mem_records_of_mem_selected h)

/-- The ids of the records that a run deals with are strictly increasing. -/
theorem pairwise_selected (hs : s.Valid) : (m.selected s).Pairwise fun q r => q.id < r.id :=
  (MemoryStore.pairwise_records hs.sorted).sublist window_sublist

/-! ### One transaction -/

/-- The store and the counters are what the kept records make of them. -/
structure Counted (m : Migration) (s : MemoryStore) (rs : List Record)
    (st : MigrationState MemoryStore) : Prop where
  documents : st.store.documents = canonicalizeAt (m.touched rs) s.documents
  writes : st.store.writes = s.writes + m.writeCount rs
  written : st.report.written = m.writeCount rs
  surveys : { st.report with failures := [] }.Surveys rs

theorem counted_start (m : Migration) (s : MemoryStore) :
    m.Counted s [] ⟨s, .empty m.mode m.strategy m.resumeFrom, []⟩ where
  documents := (passed_start m s).documents
  writes := (passed_start m s).writes
  written := (passed_start m s).written
  surveys := (passed_start m s).surveys

/-- The cursor, the failures and what was noted do not matter. -/
theorem Counted.congr (h : m.Counted s rs st) (hstore : st'.store = st.store)
    {failures : List ChunkFailure} {cursor : Option String}
    (hreport : st'.report = { st.report with failures := failures, lastCursor := cursor }) :
    m.Counted s rs st' where
  documents := by rw [hstore, h.documents]
  writes := by rw [hstore, h.writes]
  written := by rw [hreport, h.written]
  surveys := by
    rw [hreport]
    exact h.surveys.withProgress _ _

/-- The counters after the next records were planned and written. -/
theorem Counted.append (h : m.Counted s rs st) (hs : s.Valid)
    (hnext : (rs ++ b).Sublist (m.selected s))
    (hdocuments : st'.store.documents = canonicalizeAt (m.touched (rs ++ b)) s.documents)
    (hwrites : st'.store.writes = st.store.writes + m.writeCount b) {cursor : Option String}
    (hreport : st'.report =
      let planned := b.foldl MigrationReport.scanRecord st.report
      { planned with written := planned.written + m.writeCount b, lastCursor := cursor }) :
    m.Counted s (rs ++ b) st' where
  documents := hdocuments
  writes := by rw [hwrites, h.writes, writeCount_append, Nat.add_assoc]
  written := by
    rw [hreport]
    dsimp only
    rw [MigrationReport.written_foldl_scanRecord, h.written, writeCount_append]
  surveys := by
    have hmem : ∀ r ∈ b, r ∈ m.selected s :=
      fun r hr => hnext.subset (List.mem_append_right _ hr)
    have hsurveys := h.surveys.foldl_scanRecord (b := b)
      (fun r hr => wellFormed_of_mem_selected hs (hmem r hr))
      fun r hr => (mem_window_iff.mp (hmem r hr)).2.1
    rw [MigrationReport.foldl_scanRecord_failures] at hsurveys
    rw [hreport]
    exact hsurveys.withProgress _ _

/-- **The next chunk.** It is either rolled back and reported, so that it counts for nothing, or it
is kept. -/
theorem Counted.runChunk (h : m.Counted s rs st) (hs : s.Valid)
    (hnext : (rs ++ b).Sublist (m.selected s)) (refused : List String) (chunk : Nat)
    (firstId lastId : String) :
    let st₁ := m.runChunk (MemoryStore.refusing refused) chunk firstId lastId b st
    (m.Counted s rs st₁ ∧ ∃ e,
      st₁.report.failures = st.report.failures ++ [⟨chunk, firstId, lastId, e⟩]) ∨
    (m.Counted s (rs ++ b) st₁ ∧ st₁.report.failures = st.report.failures) := by
  by_cases hmalformed : ∃ r ∈ b, r.IsMalformed
  · obtain ⟨e, he⟩ := planAll_of_isMalformed hmalformed st.report
    simp only [Migration.runChunk, he]
    exact .inl ⟨h.congr rfl rfl, e, rfl⟩
  · have hplan := planAll_of_not_isMalformed (fun r hr hmal => hmalformed ⟨r, hr, hmal⟩) st.report
    rcases persist_next refused hs hnext h.documents with
      ⟨-, e, hpersist⟩ | ⟨u, hpersist, hdocuments, hwrites, -⟩
    · simp only [Migration.runChunk, hplan, hpersist]
      exact .inl ⟨h.congr rfl rfl, e, rfl⟩
    · simp only [Migration.runChunk, hplan, hpersist]
      refine .inr ⟨h.append hs hnext hdocuments hwrites rfl, ?_⟩
      exact MigrationReport.failures_foldl_scanRecord b st.report

/-- All records in one transaction: if it succeeds, they are kept. -/
theorem counted_of_runAtomic (hs : s.Valid)
    (h : m.runAtomic (MemoryStore.refusing refused)
      ⟨s, .empty m.mode m.strategy m.resumeFrom, []⟩ = (st, .ok ())) :
    m.Counted s (m.selected s) st ∧ st.report.failures = [] := by
  have hselect : (MemoryStore.refusing refused).select s m.resumeFrom none =
      .ok (m.selected s) := rfl
  simp only [runAtomic, hselect] at h
  split at h
  · cases h
  · next planned report hplan =>
    obtain ⟨hplain, rfl, -⟩ := planAll_eq_ok hplan
    rw [planAll_of_not_isMalformed hplain] at hplan
    obtain ⟨-, rfl⟩ := Prod.mk.inj (Except.ok.inj hplan)
    have hstart := counted_start m s
    rcases persist_next (b := m.selected s) refused hs (List.Sublist.refl _) hstart.documents with
      ⟨-, e, hpersist⟩ | ⟨u, hpersist, hdocuments, hwrites, -⟩
    · simp only [hpersist] at h
      cases h
    · simp only [hpersist] at h
      obtain ⟨rfl, -⟩ := Prod.mk.inj h
      refine ⟨hstart.append hs (List.Sublist.refl _) hdocuments hwrites rfl, ?_⟩
      exact MigrationReport.failures_foldl_scanRecord _ _

/-! ### Chunk after chunk -/

/-- The failure reports a block of the records given, which has all of them from its first id to its
last. -/
structure FailedIn (n : Nat) (rs : List Record) (f : ChunkFailure) (b : List Record) : Prop where
  block : (blocks n rs)[f.chunk]? = some b
  firstId : b.head?.map (·.id) = some f.firstId
  lastId : b.getLast?.map (·.id) = some f.lastId
  mem_iff : ∀ r ∈ rs, r ∈ b ↔ f.firstId ≤ r.id ∧ r.id ≤ f.lastId

/-- The chunks in front are dealt with: what was kept of them is counted, and the failures are
chunks among them. -/
structure CountedUpTo (m : Migration) (s : MemoryStore) (n : Nat) (front : List Record)
    (st : MigrationState MemoryStore) : Prop where
  counted : m.Counted s (st.report.kept front) st
  failedIn : ∀ f ∈ st.report.failures, ∃ b, FailedIn n (m.selected s) f b
  lastId_mem : ∀ f ∈ st.report.failures, f.lastId ∈ front.map (·.id)

/-- The next chunk is either lost as a whole or kept as a whole, and nothing changes for the chunks
in front of it. -/
theorem CountedUpTo.runChunk {rest : List Record} {first last : Record}
    (h : m.CountedUpTo s n front st) (hs : s.Valid) (hsplit : m.selected s = front ++ b ++ rest)
    (hblock : (blocks n (m.selected s))[chunk]? = some b) (hfirst : b.head? = some first)
    (hlast : b.getLast? = some last) :
    m.CountedUpTo s n (front ++ b)
      (m.runChunk (MemoryStore.refusing refused) chunk first.id last.id b st) := by
  have hpairwise := pairwise_selected (m := m) hs
  rw [hsplit] at hpairwise
  obtain ⟨-, -, hless⟩ := List.pairwise_append.mp (List.pairwise_append.mp hpairwise).1
  -- the chunk is behind all failures so far
  have hnew : st.report.kept b = b := by
    rw [MigrationReport.kept, List.filter_eq_self]
    intro r hr
    rw [decide_eq_true_eq]
    rintro ⟨f, hf, -, hle⟩
    obtain ⟨q, hq, hid⟩ := List.mem_map.mp (h.lastId_mem f hf)
    rw [← hid] at hle
    exact absurd (hless q hq r hr) (String.not_lt.mpr hle)
  have hnext : (st.report.kept front ++ b).Sublist (m.selected s) := by
    rw [hsplit]
    exact (MigrationReport.kept_sublist.append_right b).trans (List.sublist_append_left _ _)
  have hfront : ∀ {id : String}, id ∈ front.map (·.id) → id ∈ (front ++ b).map (·.id) := by
    intro id hid
    rw [List.map_append]
    exact List.mem_append_left _ hid
  rcases h.counted.runChunk hs hnext refused chunk first.id last.id with
    ⟨hcounted, e, hfailures⟩ | ⟨hcounted, hfailures⟩
  · have hforall : ∀ {P : ChunkFailure → Prop}, (∀ f ∈ st.report.failures, P f) →
        P ⟨chunk, first.id, last.id, e⟩ → ∀ f ∈ (m.runChunk (MemoryStore.refusing refused) chunk
          first.id last.id b st).report.failures, P f := by
      intro P hold hnew
      rw [hfailures]
      exact List.forall_mem_append.mpr ⟨hold, List.forall_mem_singleton.mpr hnew⟩
    have hmem : ∀ r ∈ m.selected s, r ∈ b ↔ first.id ≤ r.id ∧ r.id ≤ last.id := by
      rw [hsplit]
      exact fun r hr => mem_part_iff hpairwise hfirst hlast hr
    refine ⟨?_, hforall h.failedIn ⟨b, hblock, by rw [hfirst]; rfl, by rw [hlast]; rfl, hmem⟩,
      hforall (fun f hf => hfront (h.lastId_mem f hf)) ?_⟩
    · rwa [MigrationReport.kept_append_of_failed hfailures ?_ ?_]
      · exact fun r hr => hless r hr first (List.mem_of_head? hfirst)
      · exact fun r hr => (hmem r (hnext.subset (List.mem_append_right _ hr))).mp hr
    · rw [List.map_append]
      exact List.mem_append_right _ (List.mem_map_of_mem (List.mem_of_getLast? hlast))
  · refine ⟨?_, by rw [hfailures]; exact h.failedIn, ?_⟩
    · rwa [MigrationReport.kept_congr hfailures, MigrationReport.kept_append, hnew]
    · rw [hfailures]
      exact fun f hf => hfront (h.lastId_mem f hf)

/-- **Chunk after chunk, all records are dealt with.** -/
theorem exists_countedUpTo_of_runChunks (m : Migration) (hs : s.Valid) (hn : 0 < n)
    (refused : List String) :
    ∃ st, (∀ fuel, (m.selected s).length < fuel →
        m.runChunks (MemoryStore.refusing refused) n fuel 0 m.resumeFrom
          ⟨s, .empty m.mode m.strategy m.resumeFrom, []⟩ = (st, .ok ())) ∧
      m.CountedUpTo s n (m.selected s) st := by
  let P : Nat → List Record → MigrationState MemoryStore → Prop := fun chunk rest st =>
    rest = (m.selected s).drop (chunk * n) ∧ m.CountedUpTo s n ((m.selected s).take (chunk * n)) st
  have hstart : P 0 (m.selected s) ⟨s, .empty m.mode m.strategy m.resumeFrom, []⟩ := by
    refine ⟨by rw [Nat.zero_mul, List.drop_zero], ?_, List.forall_mem_nil _, List.forall_mem_nil _⟩
    rw [Nat.zero_mul, List.take_zero]
    exact counted_start m s
  have hstep : ∀ {chunk : Nat} {rest : List Record} {st : MigrationState MemoryStore}
      {cursor : Option String} {first last : Record}, P chunk rest st →
      window st.store.records cursor none = rest → (rest.take n).head? = some first →
      (rest.take n).getLast? = some last →
      let st₁ := m.runChunk (MemoryStore.refusing refused) chunk first.id last.id (rest.take n) st
      P (chunk + 1) (rest.drop n) st₁ ∧
        window st₁.store.records (some last.id) none = rest.drop n := by
    rintro chunk rest st cursor first last ⟨rfl, h⟩ - hfirst hlast st₁
    have hsplit : m.selected s = (m.selected s).take (chunk * n) ++
        ((m.selected s).drop (chunk * n)).take n ++ ((m.selected s).drop (chunk * n)).drop n := by
      rw [List.append_assoc, List.take_append_drop, List.take_append_drop]
    have hne : (m.selected s).drop (chunk * n) ≠ [] := by
      intro hnil
      rw [hnil, List.take_nil] at hfirst
      cases hfirst
    have h₁ : m.CountedUpTo s n _ st₁ :=
      h.runChunk hs hsplit (getElem?_blocks hn hne) hfirst hlast
    refine ⟨⟨by rw [List.drop_drop, Nat.succ_mul], ?_⟩, ?_⟩
    · rwa [Nat.succ_mul, List.take_add]
    · refine MemoryStore.window_after_canonicalizeAt hs.sorted hsplit (by simp [hlast])
        (fun id hid => ?_) h₁.counted.documents
      exact (MigrationReport.kept_sublist.map _).subset (mem_map_id_of_mem_touched hid)
  obtain ⟨st, chunk, hrun, hdrop, hcounted⟩ := runChunks_induction hn hstep hstart rfl
  rw [List.take_of_length_le (List.drop_eq_nil_iff.mp hdrop.symm)] at hcounted
  exact ⟨st, hrun, hcounted⟩

/-! ### Runs -/

/-- What a run that succeeds has counted before it counts anew. -/
theorem exists_counted_of_run (hs : s.Valid)
    (h : m.run (MemoryStore.refusing refused) s = (s', events, .ok report)) :
    ∃ st, s' = st.store ∧ m.recount (MemoryStore.refusing refused) st = .ok report ∧
      m.Counted s (st.report.kept (m.selected s)) st ∧
      ∀ f ∈ st.report.failures, ∃ n b,
        m.strategy = .chunked n ∧ FailedIn n (m.selected s) f b := by
  obtain ⟨st, hrecords, hstore, hrecount⟩ := exists_runRecords_of_run s h
  refine ⟨st, hstore, hrecount, ?_⟩
  rw [runRecords] at hrecords
  split at hrecords
  · obtain ⟨hcounted, hnone⟩ := counted_of_runAtomic hs hrecords
    rw [MigrationReport.kept_eq_self hnone, hnone]
    exact ⟨hcounted, List.forall_mem_nil _⟩
  · cases hrecords
  · next n hne hchunked =>
    obtain ⟨st', hrun, hcounted⟩ :=
      exists_countedUpTo_of_runChunks m hs (Nat.pos_of_ne_zero hne) refused
    have hbound := hrun (m.chunkBound (MemoryStore.refusing refused) s) (Nat.lt_succ_self _)
    obtain rfl := (Prod.mk.inj (hrecords.symm.trans hbound)).1
    refine ⟨hcounted.counted, fun f hf => ?_⟩
    obtain ⟨b, hb⟩ := hcounted.failedIn f hf
    exact ⟨n, b, hchunked, hb⟩

/-- The elements of the packages of a record, as a store holds them. -/
def storedElements (s : MemoryStore) (id : String) : List Json :=
  (s.get? id).elim [] fun d => Record.elements ⟨id, d⟩

/-- The records of a window that are legacy in the store, as the store after a run holds them. -/
theorem countP_hasLegacy_window {ids : List String} (hs : s.Valid)
    (h : s'.documents = canonicalizeAt ids s.documents) :
    (window s'.records m.resumeFrom none).countP (fun r => r.HasLegacy) =
      (m.selected s).countP fun r => (storedElements s' r.id).any isLegacyDocument := by
  rw [MemoryStore.records_canonicalizeAt h, window_map_canonicalizeIn, List.countP_map, selected]
  refine List.countP_congr fun r hr => ?_
  have hget : s'.get? r.id = some (r.canonicalizeIn ids).document := by
    rw [MemoryStore.get?, h, get?_canonicalizeAt,
      MemoryStore.get?_of_mem_records hs.sorted (mem_records_of_mem_selected hr), Option.map_some,
      Record.canonicalizeIn]
    split <;> rfl
  have hrecord : (⟨r.id, (r.canonicalizeIn ids).document⟩ : Record) = r.canonicalizeIn ids := by
    rw [← Record.canonicalizeIn_id ids r]
  rw [Function.comp_apply, decide_eq_true_eq, Record.hasLegacy_iff, storedElements, hget,
    Option.elim_some, hrecord]

/-- Counting anew changes two figures of the report, and not how many packages there are. -/
theorem exists_of_recount {ids : List String} {rs : List Record} (hs : s.Valid)
    (hsurveys : Surveys { st.report with failures := [] } rs)
    (hdocuments : st.store.documents = canonicalizeAt ids s.documents)
    (h : m.recount (MemoryStore.refusing refused) st = .ok report) :
    ∃ legacyAfter types, report = { st.report with legacyAfter := legacyAfter, types := types } ∧
      packageCount types = (rs.map fun r => r.elements.length).sum ∧
      (m.mode = .live → legacyAfter = (m.selected s).countP fun r =>
        (storedElements st.store r.id).any isLegacyDocument) := by
  have hcount : packageCount st.report.types = (rs.map fun r => r.elements.length).sum := by
    rw [hsurveys.types.packageCount_eq, censusOf, List.length_flatMap]
    simp only [Record.length_census]
  rw [recount] at h
  cases hmode : m.mode with
  | dryRun =>
    rw [hmode] at h
    obtain rfl := Except.ok.inj h
    exact ⟨_, _, rfl, hcount, fun hlive => by cases hlive⟩
  | live =>
    have hselect : (MemoryStore.refusing refused).select st.store m.resumeFrom none =
        .ok (window st.store.records m.resumeFrom none) := rfl
    simp only [hmode, hselect] at h
    obtain rfl := Except.ok.inj h
    refine ⟨_, _, MigrationReport.recount_eq _ _, ?_, fun _ => ?_⟩
    · exact (hsurveys.types.packageCount_recount _).trans hcount
    · exact countP_hasLegacy_window hs hdocuments

end Migration

/-- The figures of a report agree with each other and with the store before and after the run:
there is one list of differences for each record that changes, in order and of no chunk that failed;
the changed records are those that a live run has written; every selected record was read or is in a
chunk that failed; the packages are those of the records that were read; and after a live run the
legacy records are those in the store. Every failure is a chunk of the selected records. -/
structure MigrationReport.Accounts (report : MigrationReport) (m : Migration)
    (s s' : MemoryStore) : Prop where
  changed : report.changed = report.diffs.length
  increasing : (report.diffs.map (·.recordId)).Pairwise (· < ·)
  not_lost : ∀ d ∈ report.diffs, ¬ report.Lost d.recordId
  written : report.written = if m.mode = .live then report.changed else 0
  writes : s'.writes = s.writes + report.written
  scanned : report.scanned + (m.selected s).countP (fun r => report.Lost r.id) =
    (m.selected s).length
  packages : packageCount report.types =
    ((report.kept (m.selected s)).map fun r => r.elements.length).sum
  legacyAfter : m.mode = .live → report.legacyAfter = (m.selected s).countP fun r =>
    (Migration.storedElements s' r.id).any isLegacyDocument
  failures : ∀ f ∈ report.failures, ∃ n b, m.strategy = .chunked n ∧
    Migration.FailedIn n (m.selected s) f b

namespace Migration

variable {m : Migration} {s s' : MemoryStore} {refused : List String}
  {events : List MigrationEvent}

/-- **What a report accounts for.** If a run over a store in memory succeeds, also one that refuses
to write some records, then its report agrees with itself and with the store. -/
theorem run_accounts (hs : s.Valid)
    (h : m.run (MemoryStore.refusing refused) s = (s', events, .ok report)) :
    report.Accounts m s s' := by
  obtain ⟨st, rfl, hrecount, hcounted, hfailures⟩ := exists_counted_of_run hs h
  obtain ⟨legacyAfter, types, rfl, hpackages, hlegacy⟩ :=
    exists_of_recount hs hcounted.surveys hcounted.documents hrecount
  have hkept : (st.report.kept (m.selected s)).Sublist (m.selected s) :=
    MigrationReport.kept_sublist
  have hwf : ∀ r ∈ st.report.kept (m.selected s), r.document.WellFormed :=
    fun r hr => wellFormed_of_mem_selected hs (hkept.subset hr)
  have hdiffs : st.report.diffs = (st.report.kept (m.selected s)).filterMap Record.diff? :=
    hcounted.surveys.diffs
  have hchanged : st.report.changed =
      (st.report.kept (m.selected s)).countP fun r => r.Changes := hcounted.surveys.changed
  have hscanned : st.report.scanned = (st.report.kept (m.selected s)).length :=
    hcounted.surveys.scanned
  exact {
    changed := by
      dsimp only
      rw [hchanged, hdiffs, length_filterMap_diff? hwf]
    increasing := by
      dsimp only
      rw [hdiffs]
      exact pairwise_recordId_diff? ((pairwise_selected hs).sublist hkept)
    not_lost := by
      dsimp only
      intro d hd
      rw [hdiffs] at hd
      obtain ⟨r, hr, hdiff⟩ := List.mem_filterMap.mp hd
      rw [Record.recordId_of_diff? hdiff]
      exact MigrationReport.not_lost_of_mem_kept hr
    written := by
      dsimp only
      rw [hcounted.written, hchanged, writeCount]
      cases m.mode with
      | dryRun => rfl
      | live => exact length_replacements hwf
    writes := by
      dsimp only
      rw [hcounted.writes, hcounted.written]
    scanned := by
      have hlength := st.report.length_kept_add (m.selected s)
      rw [← hscanned] at hlength
      exact hlength
    packages := hpackages
    legacyAfter := hlegacy
    failures := hfailures }

theorem run_accounts_mixedRecords :
    ∃ (s' : MemoryStore) (events : List MigrationEvent) (report : MigrationReport),
      run ⟨.live, .chunked 1, none⟩ (MemoryStore.refusing ["a"])
        (MemoryStore.ofRecords mixedRecords) = (s', events, .ok report) ∧
      report.failures.map ChunkFailure.place = [(0, some "a", some "a"), (2, some "c", some "c")] ∧
      report.Accounts ⟨.live, .chunked 1, none⟩ (MemoryStore.ofRecords mixedRecords) s' := by
  obtain ⟨st, events, report, -, hrun, -, hfailures⟩ :=
    exists_run_chunked valid_mixedRecords (n := 1) (by decide) ["a"]
  exact ⟨st.store, events, report, hrun, hfailures.trans (by decide),
    run_accounts valid_mixedRecords hrun⟩

end Migration

end Catalog
