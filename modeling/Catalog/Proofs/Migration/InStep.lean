import Catalog.Proofs.Migration.Survey

/-!
# Runs in step

Two migrations over two stores run in step when the stores hand out the same records at each cursor
and a transaction with what was planned for them has the same result in both. The runs then note the
same events and fail with the same error, or their reports are the same but for the last cursor.

## Main definitions

* `MigrationReport.withCursor` — a report with another last cursor.
* `Migration.InStep` — what has to hold of two migrations and their stores at each cursor.
* `Migration.Alike` — two migrations on their way that have dealt with the same records.

## Main results

* `planAll_withCursor` — planning does not depend on the last cursor.
* `Migration.Alike.runChunk`, `Migration.Alike.runAtomic` — the records of one transaction.
* `Migration.Alike.runChunks` — chunk after chunk.
* `Migration.exists_run_of_inStep` — **whole runs in step.**
-/

namespace Catalog

variable {b : List Record}

/-! ### The last cursor of a report -/

namespace MigrationReport

/-- The report with another last cursor. -/
def withCursor (report : MigrationReport) (cursor : Option String) : MigrationReport :=
  { report with lastCursor := cursor }

theorem scan_withCursor (report : MigrationReport) (cursor : Option String) (id : String)
    (v : Json) (replacement : Option Json) :
    (report.withCursor cursor).scan id v replacement =
      (report.scan id v replacement).withCursor cursor := by
  cases replacement <;> rfl

theorem recount_withCursor (report : MigrationReport) (cursor : Option String) (b : List Record) :
    (report.withCursor cursor).recount b = (report.recount b).withCursor cursor := by
  rw [recount_eq, recount_eq]
  rfl

end MigrationReport

open MigrationReport (scan_withCursor recount_withCursor)

/-- Planning does not depend on the last cursor. -/
theorem planAll_withCursor (b : List Record) (report : MigrationReport) (cursor : Option String) :
    planAll b (report.withCursor cursor) =
      (planAll b report).map fun plan => (plan.1, plan.2.withCursor cursor) := by
  induction b generalizing report with
  | nil => rfl
  | cons r b ih =>
    rw [planAll, planAll]
    cases r.packages? with
    | none => exact ih report
    | some v =>
      cases planRecord r with
      | error e => rfl
      | ok replacement =>
        simp only [ok_bind, scan_withCursor, ih]
        cases planAll b (report.scan r.id v replacement) <;> rfl

namespace Migration

variable {σ σ' τ τ' : Type} {m m' : Migration} {store : RecordStore σ τ}
  {store' : RecordStore σ' τ'} {R : Option String → Option String → σ → σ' → Prop}
  {st : MigrationState σ} {st' : MigrationState σ'} {s : σ} {s' : σ'} {limit : Option Nat}
  {last : Record}

/-! ### Two migrations -/

/-- Two migrations over two stores are in step, as long as a relation between their cursors and the
contents of their stores holds: whatever one finds and writes there, the other one does. -/
structure InStep (m m' : Migration) (store : RecordStore σ τ) (store' : RecordStore σ' τ')
    (R : Option String → Option String → σ → σ' → Prop) : Prop where
  mode : m.mode = m'.mode
  strategy : m.strategy = m'.strategy
  /-- The next records are the same. -/
  select : ∀ {c c' s s'}, R c c' s s' → ∀ limit, store.select s c limit = store'.select s' c' limit
  /-- All records are the same. -/
  reselect : ∀ {c c' s s'}, R c c' s s' →
    store.select s m.resumeFrom none = store'.select s' m'.resumeFrom none
  /-- The next records can be left as they are. -/
  skip : ∀ {c c' s s' limit b last}, R c c' s s' → store.select s c limit = .ok b →
    b.getLast? = some last → R (some last.id) (some last.id) s s'
  /-- What is planned for the next records has the same result. -/
  persist : ∀ {c c' s s' limit b last}, m.mode = .live → R c c' s s' →
    store.select s c limit = .ok b → b.getLast? = some last → (∀ r ∈ b, ¬ r.IsMalformed) →
    R (some last.id) (some last.id) (m.persist store s (replacements b)).1
        (m'.persist store' s' (replacements b)).1 ∧
      (m.persist store s (replacements b)).2 = (m'.persist store' s' (replacements b)).2

/-- Two migrations on their way have dealt with the same records. -/
structure Alike (R : Option String → Option String → σ → σ' → Prop) (st : MigrationState σ)
    (st' : MigrationState σ') : Prop where
  stores : R st.report.lastCursor st'.report.lastCursor st.store st'.store
  report : st.report = st'.report.withCursor st.report.lastCursor
  events : st.events = st'.events

/-- Without writes a transaction changes nothing. -/
theorem persist_dryRun (h : m.mode = .dryRun) (store : RecordStore σ τ) (s : σ)
    (planned : List Planned) : m.persist store s planned = (s, [], .ok 0) := by
  simp only [persist, h]

/-- One transaction of two migrations in step, with the planned packages of the next records. -/
theorem InStep.persist_eq (h : InStep m m' store store' R) {c c' : Option String}
    (hR : R c c' s s') (hselect : store.select s c limit = .ok b) (hlast : b.getLast? = some last)
    (hplain : ∀ r ∈ b, ¬ r.IsMalformed) :
    ∃ t t' outcome, m.persist store s (replacements b) = (t, outcome) ∧
      m'.persist store' s' (replacements b) = (t', outcome) ∧
      R (some last.id) (some last.id) t t' := by
  cases hmode : m.mode with
  | dryRun =>
    have hmode' : m'.mode = .dryRun := by rw [← h.mode, hmode]
    exact ⟨s, s', ([], .ok 0), persist_dryRun hmode store s _, persist_dryRun hmode' store' s' _,
      h.skip hR hselect hlast⟩
  | live =>
    obtain ⟨hstores, houtcome⟩ := h.persist hmode hR hselect hlast hplain
    exact ⟨_, _, _, rfl, Prod.ext rfl houtcome.symm, hstores⟩

theorem lastCursor_runChunk (m : Migration) (store : RecordStore σ τ) (chunk : Nat)
    (firstId lastId : String) (b : List Record) (st : MigrationState σ) :
    (m.runChunk store chunk firstId lastId b st).report.lastCursor = some lastId := by
  rw [runChunk]
  dsimp only
  split
  · rfl
  · split <;> rfl

/-- One chunk of two migrations in step, whether it succeeds or fails. -/
theorem Alike.runChunk (h : InStep m m' store store' R) (hst : Alike R st st')
    (hselect : store.select st.store st.report.lastCursor limit = .ok b)
    (hlast : b.getLast? = some last) (chunk : Nat) (firstId : String) :
    Alike R (m.runChunk store chunk firstId last.id b st)
      (m'.runChunk store' chunk firstId last.id b st') := by
  obtain ⟨hstores, hreport, hevents⟩ := hst
  have hplan := planAll_withCursor b st'.report st.report.lastCursor
  rw [← hreport] at hplan
  rw [Migration.runChunk, Migration.runChunk]
  dsimp only
  cases hplan' : planAll b st'.report with
  | error e =>
    rw [hplan'] at hplan
    simp only [hplan, Except.map]
    refine ⟨h.skip hstores hselect hlast, ?_, by rw [hevents]⟩
    rw [hreport]
    rfl
  | ok plan =>
    obtain ⟨planned, report⟩ := plan
    obtain ⟨hplain, rfl, -⟩ := planAll_eq_ok hplan'
    obtain ⟨t, t', ⟨events, result⟩, hpersist, hpersist', hnext⟩ :=
      h.persist_eq hstores hselect hlast hplain
    rw [hplan'] at hplan
    simp only [hplan, Except.map, hpersist, hpersist']
    cases result with
    | error e =>
      refine ⟨hnext, ?_, by rw [hevents]⟩
      rw [hreport]
      rfl
    | ok written => exact ⟨hnext, rfl, by rw [hevents]⟩

/-- All records of two migrations in step, in one transaction. -/
theorem Alike.runAtomic (h : InStep m m' store store' R) (hst : Alike R st st')
    (hcursor : st.report.lastCursor = m.resumeFrom)
    (hcursor' : st'.report.lastCursor = m'.resumeFrom) :
    Alike R (m.runAtomic store st).1 (m'.runAtomic store' st').1 ∧
      (m.runAtomic store st).2 = (m'.runAtomic store' st').2 := by
  obtain ⟨hstores, hreport, hevents⟩ := hst
  have hselect := h.select hstores none
  rw [hcursor, hcursor'] at hselect
  rw [Migration.runAtomic, Migration.runAtomic, ← hselect]
  cases hrecords : store.select st.store m.resumeFrom none with
  | error e => exact ⟨⟨hstores, hreport, hevents⟩, rfl⟩
  | ok b =>
    have hplan := planAll_withCursor b st'.report st.report.lastCursor
    rw [← hreport] at hplan
    dsimp only
    cases hplan' : planAll b st'.report with
    | error e =>
      rw [hplan'] at hplan
      simp only [hplan, Except.map]
      exact ⟨⟨hstores, hreport, by rw [hevents]⟩, trivial⟩
    | ok plan =>
      obtain ⟨planned, report⟩ := plan
      rw [hplan'] at hplan
      simp only [hplan, Except.map]
      cases hlast : b.getLast? with
      | none =>
        -- there are no records, so nothing is planned
        obtain rfl := List.getLast?_eq_none_iff.mp hlast
        obtain ⟨rfl, rfl⟩ := Prod.mk.inj (Except.ok.inj hplan')
        rw [persist_nil, persist_nil]
        exact ⟨⟨hstores, rfl, by rw [hevents]⟩, rfl⟩
      | some last =>
        obtain ⟨hplain, rfl, -⟩ := planAll_eq_ok hplan'
        rw [← hcursor] at hrecords
        obtain ⟨t, t', ⟨events, result⟩, hpersist, hpersist', hnext⟩ :=
          h.persist_eq hstores hrecords hlast hplain
        simp only [hpersist, hpersist']
        cases result with
        | error e => exact ⟨⟨hnext, rfl, by rw [hevents]⟩, rfl⟩
        | ok written => exact ⟨⟨hnext, rfl, by rw [hevents]⟩, rfl⟩

/-- Chunk after chunk of two migrations in step. -/
theorem Alike.runChunks (h : InStep m m' store store' R) (hst : Alike R st st') (n fuel chunk : Nat) :
    Alike R (m.runChunks store n fuel chunk st.report.lastCursor st).1
        (m'.runChunks store' n fuel chunk st'.report.lastCursor st').1 ∧
      (m.runChunks store n fuel chunk st.report.lastCursor st).2 =
        (m'.runChunks store' n fuel chunk st'.report.lastCursor st').2 := by
  -- the induction is on the bound: a chunk leaves two migrations on their way that are alike again
  induction fuel generalizing st st' chunk with
  | zero => exact ⟨hst, rfl⟩
  | succ fuel ih =>
    have hselect' := h.select hst.stores (some n)
    cases hselect : store.select st.store st.report.lastCursor (some n) with
    | error e =>
      rw [Migration.runChunks, Migration.runChunks, ← hselect', hselect]
      exact ⟨hst, rfl⟩
    | ok b =>
      rw [hselect] at hselect'
      by_cases hb : b = []
      · subst hb
        rw [runChunks_of_nil hselect, runChunks_of_nil hselect'.symm]
        exact ⟨hst, rfl⟩
      · obtain ⟨first, last, hfirst, hlast⟩ := exists_head?_getLast? hb
        have hnext := hst.runChunk h hselect hlast chunk first.id
        rw [runChunks_of_ne_nil hselect hfirst hlast,
          runChunks_of_ne_nil hselect'.symm hfirst hlast]
        split
        · exact ⟨hnext, rfl⟩
        · have hrest := ih hnext (chunk + 1)
          rwa [lastCursor_runChunk, lastCursor_runChunk] at hrest

/-- All records of two migrations in step. -/
theorem Alike.runRecords (h : InStep m m' store store' R) (hst : Alike R st st')
    (hcursor : st.report.lastCursor = m.resumeFrom)
    (hcursor' : st'.report.lastCursor = m'.resumeFrom) :
    Alike R (m.runRecords store st).1 (m'.runRecords store' st').1 ∧
      (m.runRecords store st).2 = (m'.runRecords store' st').2 := by
  have hbound : m.chunkBound store st.store = m'.chunkBound store' st'.store := by
    rw [chunkBound, chunkBound, h.reselect hst.stores]
  rw [Migration.runRecords, Migration.runRecords, ← h.strategy]
  split
  · exact hst.runAtomic h hcursor hcursor'
  · exact ⟨hst, rfl⟩
  · rw [hbound, ← hcursor, ← hcursor']
    exact hst.runChunks h _ _ _

/-- **Whole runs in step.** They note the same events and leave related stores. They fail with the
same error, or their reports are the same but for the last cursor. -/
theorem exists_run_of_inStep (h : InStep m m' store store' R)
    (hR : R m.resumeFrom m'.resumeFrom s s') :
    ∃ (t : σ) (t' : σ') (events : List MigrationEvent) (c c' : Option String), R c c' t t' ∧
      ((∃ e, m.run store s = (t, events, .error e) ∧ m'.run store' s' = (t', events, .error e)) ∨
        ∃ report : MigrationReport, m.run store s = (t, events, .ok (report.withCursor c)) ∧
          m'.run store' s' = (t', events, .ok (report.withCursor c'))) := by
  have hstart : Alike R (⟨s, .empty m.mode m.strategy m.resumeFrom, []⟩ : MigrationState σ)
      ⟨s', .empty m'.mode m'.strategy m'.resumeFrom, []⟩ := by
    refine ⟨hR, ?_, rfl⟩
    rw [h.mode, h.strategy]
    rfl
  obtain ⟨hend, hresult⟩ := hstart.runRecords h rfl rfl
  rw [run, run]
  generalize m.runRecords store _ = outcome at hend hresult
  generalize m'.runRecords store' _ = outcome' at hend hresult
  obtain ⟨st, result⟩ := outcome
  obtain ⟨st', result'⟩ := outcome'
  obtain rfl : result = result' := hresult
  obtain ⟨hstores, hreport, hevents⟩ : Alike R st st' := hend
  cases result with
  | error e =>
    refine ⟨st.store, st'.store, st.events, _, _, hstores, Or.inl ⟨e, rfl, ?_⟩⟩
    rw [hevents]
  | ok =>
    -- what a live run counts anew is the same in both stores
    have hrecount : m.recount store st = (m'.recount store' st').map fun report =>
        report.withCursor st.report.lastCursor := by
      rw [recount, recount, ← h.mode, ← h.reselect hstores]
      cases m.mode with
      | dryRun => exact congrArg Except.ok hreport
      | live =>
        cases store.select st.store m.resumeFrom none with
        | error e => rfl
        | ok b =>
          dsimp only [Except.map]
          conv_lhs => rw [hreport, recount_withCursor]
    have hcursor : ∀ report, m'.recount store' st' = .ok report →
        report.lastCursor = st'.report.lastCursor := by
      intro report hreport
      rw [recount] at hreport
      split at hreport
      · rw [← Except.ok.inj hreport]
      · cases hselect : store'.select st'.store m'.resumeFrom none with
        | error e =>
          rw [hselect] at hreport
          cases hreport
        | ok b =>
          rw [hselect] at hreport
          rw [← Except.ok.inj hreport, MigrationReport.lastCursor_recount]
    dsimp only
    rw [hrecount]
    cases hreport' : m'.recount store' st' with
    | error e =>
      refine ⟨st.store, st'.store, st.events, _, _, hstores, Or.inl ⟨e, rfl, ?_⟩⟩
      rw [hevents]
    | ok report =>
      refine ⟨st.store, st'.store, _, _, _, hstores, Or.inr ⟨report, rfl, ?_⟩⟩
      rw [← hcursor report hreport', hevents]
      rfl

end Migration

end Catalog
