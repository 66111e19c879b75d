import Catalog.Proofs.Except
import Catalog.Proofs.Record.Canonical

/-!
# The steps of a migration

Planning stops at the first malformed record. Otherwise it gives the replacements in order, and
whatever it counts, it reports no failure. Chunks are dealt with until there are no records left.

## Main definitions

* `replacements` — the packages to write for several records.

## Main results

* `planAll_eq_ok` — **when there is a plan, and which.**
* `Migration.runChunks_of_nil`, `Migration.runChunks_of_ne_nil` — one round of a run in chunks.
* `Migration.exists_run_of_runRecords`, `Migration.exists_runRecords_of_run` — a whole run from what
  it does to the records.
-/

namespace Catalog

variable {b : List Record} {r : Record} {planned : List Planned}
  {report report' : MigrationReport}

/-- The packages to write for the records, in order. -/
def replacements (b : List Record) : List Planned :=
  b.filterMap fun r => r.replacement?.map (⟨r.id, ·⟩)

theorem replacements_cons : replacements (r :: b) =
    r.replacement?.toList.map (⟨r.id, ·⟩) ++ replacements b := by
  rw [replacements, List.filterMap_cons]
  cases r.replacement? <;> rfl

/-- There is something to write for a record with a replacement. -/
theorem mem_replacements_iff {p : Planned} :
    p ∈ replacements b ↔ ∃ r ∈ b, r.replacement? = some p.packages ∧ p.id = r.id := by
  obtain ⟨id, packages⟩ := p
  simp only [replacements, List.mem_filterMap, Option.map_eq_some_iff, Planned.mk.injEq]
  constructor
  · rintro ⟨r, hr, v, hv, hid, rfl⟩
    exact ⟨r, hr, hv, hid.symm⟩
  · rintro ⟨r, hr, hv, rfl⟩
    exact ⟨r, hr, packages, hv, rfl, rfl⟩

theorem map_id_replacements_sublist (b : List Record) :
    ((replacements b).map (·.id)).Sublist (b.map (·.id)) := by
  induction b with
  | nil => exact List.Sublist.refl _
  | cons r b ih =>
    rw [replacements_cons]
    cases r.replacement? with
    | none => exact ih.cons r.id
    | some v => exact ih.cons_cons r.id

namespace MigrationReport

@[simp] theorem failures_scan (report : MigrationReport) (id : String) (packages : Json)
    (replacement : Option Json) :
    (report.scan id packages replacement).failures = report.failures := by
  cases replacement <;> rfl

end MigrationReport

/-- The report after one more record. -/
def MigrationReport.scanRecord (report : MigrationReport) (r : Record) : MigrationReport :=
  match r.packages? with
  | none => report
  | some v => report.scan r.id v r.replacement?

/-- What planning one record keeps, planning several keeps. -/
theorem MigrationReport.foldl_scanRecord_keeps {α : Type} {f : MigrationReport → α}
    (h : ∀ report id v replacement, f (scan report id v replacement) = f report)
    (b : List Record) (report : MigrationReport) : f (b.foldl scanRecord report) = f report := by
  induction b generalizing report with
  | nil => rfl
  | cons r b ih =>
    rw [List.foldl_cons, ih, scanRecord]
    cases r.packages? with
    | none => rfl
    | some v => exact h report r.id v r.replacement?

theorem MigrationReport.failures_foldl_scanRecord (b : List Record) (report : MigrationReport) :
    (b.foldl scanRecord report).failures = report.failures :=
  foldl_scanRecord_keeps failures_scan b report

/-- The plan for records of which none is malformed. -/
theorem planAll_of_not_isMalformed (h : ∀ r ∈ b, ¬ r.IsMalformed) (report : MigrationReport) :
    planAll b report = .ok (replacements b, b.foldl MigrationReport.scanRecord report) := by
  induction b generalizing report with
  | nil => rfl
  | cons r b ih =>
    obtain ⟨hr, hb⟩ := List.forall_mem_cons.mp h
    rw [planAll, List.foldl_cons, MigrationReport.scanRecord, replacements_cons]
    cases hv : r.packages? with
    | none =>
      have hnone : r.replacement? = none := by rw [Record.replacement?, hv]
      rw [hnone]
      exact ih hb report
    | some v =>
      simp only [Record.planRecord_of_not_isMalformed hr, ok_bind, ih hb]
      rfl

/-- There is no plan with a malformed record. -/
theorem planAll_of_isMalformed (h : ∃ r ∈ b, r.IsMalformed) (report : MigrationReport) :
    ∃ e, planAll b report = .error e := by
  induction b generalizing report with
  | nil => simp at h
  | cons r b ih =>
    cases hv : r.packages? with
    | none =>
      have hr : ¬ r.IsMalformed := by
        rintro ⟨v, hsome, -⟩
        cases hv.symm.trans hsome
      rw [planAll, hv]
      exact ih (by simpa [hr] using h) report
    | some v =>
      rw [planAll, hv]
      by_cases hr : r.IsMalformed
      · simp [Record.planRecord_of_isMalformed hr, bind, Except.bind]
      · obtain ⟨e, he⟩ := ih (by simpa [hr] using h) (report.scan r.id v r.replacement?)
        simp [Record.planRecord_of_not_isMalformed hr, bind, Except.bind, he]

/-- **When there is a plan, and which.** -/
theorem planAll_eq_ok (h : planAll b report = .ok (planned, report')) :
    (∀ r ∈ b, ¬ r.IsMalformed) ∧ planned = replacements b ∧
      report'.failures = report.failures := by
  by_cases hb : ∃ r ∈ b, r.IsMalformed
  · obtain ⟨e, he⟩ := planAll_of_isMalformed hb report
    rw [h] at he
    cases he
  · have hnone : ∀ r ∈ b, ¬ r.IsMalformed := fun r hr hmal => hb ⟨r, hr, hmal⟩
    rw [planAll_of_not_isMalformed hnone] at h
    obtain ⟨rfl, rfl⟩ := Prod.mk.inj (Except.ok.inj h)
    exact ⟨hnone, rfl, MigrationReport.failures_foldl_scanRecord b report⟩

/-! ### Writing what was planned -/

namespace Migration

variable {σ τ : Type} {m : Migration} (store : RecordStore σ τ) (s : σ)

theorem persist_nil : m.persist store s [] = (s, [], .ok 0) := by
  rw [persist]
  simp

theorem persist_live (hlive : m.mode = .live) (h : planned ≠ []) :
    m.persist store s planned = writeAndCommit store s planned := by
  obtain ⟨p, ps, rfl⟩ := List.exists_cons_of_ne_nil h
  simp only [persist, hlive]

/-! ### Chunk after chunk -/

variable {store} {records : List Record} {cursor : Option String} {n : Nat}
  {st : MigrationState σ}

/-- A run in chunks stops when there are no records left. -/
theorem runChunks_of_nil (h : store.select st.store cursor (some n) = .ok []) (fuel chunk : Nat) :
    m.runChunks store n (fuel + 1) chunk cursor st = (st, .ok ()) := by
  rw [runChunks, h]
  rfl

/-- A run in chunks deals with the next records, and stops if they are not as many as asked for. -/
theorem runChunks_of_ne_nil (h : store.select st.store cursor (some n) = .ok records)
    {first last : Record} (hfirst : records.head? = some first)
    (hlast : records.getLast? = some last) (fuel chunk : Nat) :
    m.runChunks store n (fuel + 1) chunk cursor st =
      if records.length < n then (m.runChunk store chunk first.id last.id records st, .ok ())
      else m.runChunks store n fuel (chunk + 1) (some last.id)
        (m.runChunk store chunk first.id last.id records st) := by
  rw [runChunks, h]
  simp only [hfirst, hlast]

theorem exists_head?_getLast? {b : List Record} (h : b ≠ []) :
    ∃ first last, b.head? = some first ∧ b.getLast? = some last :=
  ⟨b.head h, b.getLast h, List.head?_eq_some_head h, List.getLast?_eq_some_getLast h⟩

/-! ### Whole runs -/

/-- A run that dealt with all records succeeds, if they can be counted once more. -/
theorem exists_run_of_recount
    (hrun : m.runRecords store ⟨s, .empty m.mode m.strategy m.resumeFrom, []⟩ = (st, .ok ()))
    (hrecount : m.recount store st = .ok report) :
    ∃ events, m.run store s = (st.store, events, .ok report) := by
  rw [run, hrun]
  simp only [hrecount]
  exact ⟨_, rfl⟩

/-- A live run that dealt with all records counts once more what the store holds. -/
theorem exists_run_of_runRecords (hlive : m.mode = .live)
    (hrun : m.runRecords store ⟨s, .empty m.mode m.strategy m.resumeFrom, []⟩ = (st, .ok ()))
    (hselect : store.select st.store m.resumeFrom none = .ok records) :
    ∃ events, m.run store s = (st.store, events, .ok (st.report.recount records)) := by
  refine exists_run_of_recount s hrun ?_
  simp only [recount, hlive, hselect]
  rfl

/-- A run that succeeds dealt with all records, and could count them once more. -/
theorem exists_runRecords_of_run {s' : σ} {events : List MigrationEvent}
    (h : m.run store s = (s', events, .ok report)) :
    ∃ st, m.runRecords store ⟨s, .empty m.mode m.strategy m.resumeFrom, []⟩ = (st, .ok ()) ∧
      s' = st.store ∧ m.recount store st = .ok report := by
  rw [run] at h
  split at h
  · cases h
  · next st hrecords =>
    refine ⟨st, hrecords, ?_⟩
    split at h
    · cases h
    · next hrecount =>
      obtain ⟨hstore, hresult⟩ := Prod.mk.inj h
      obtain rfl := Except.ok.inj (Prod.mk.inj hresult).2
      exact ⟨hstore.symm, hrecount⟩

end Migration

end Catalog
