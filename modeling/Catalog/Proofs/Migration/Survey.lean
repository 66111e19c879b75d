import Catalog.Proofs.Canonical.Frame
import Catalog.Proofs.Migration.Steps
import Catalog.Proofs.Migration.Tally

/-!
# What a report says about records

A report counts the records that were scanned, those that change and those with legacy packages
before and after the run, the packages by registry type, and the differences. All of this is told by
the stored records alone. Planning a record adds what it tells, and counting anew what is in the
store after the run gives the counts of the plan once more.

## Main definitions

* `Record.census`, `Record.HasLegacy`, `Record.diff?` — what is counted of a record.
* `MigrationReport.Surveys` — the report says what the records tell.
* `MigrationReport.Agrees` — two reports say the same.

## Main results

* `Surveys.scan`, `Surveys.foldl_scanRecord` — planning records.
* `Surveys.recount` — **counting anew gives the same.**
* `Surveys.agrees` — what a report says is told by the records.
-/

namespace Catalog

variable {b : List Record} {r : Record} {v : Json} {report report' : MigrationReport}

/-! ### What is counted of a record -/

namespace Record

/-- The registry types and legacy flags of the packages. -/
def census (r : Record) : List (String × Bool) := r.packages?.elim [] Catalog.census

/-- One of the packages is legacy. -/
def HasLegacy (r : Record) : Prop := ∃ e ∈ r.census, e.2 = true

instance : Decidable r.HasLegacy := inferInstanceAs (Decidable (∃ e ∈ r.census, e.2 = true))

/-- The differences between the stored and the canonical packages, if a migration writes them. -/
def diff? (r : Record) : Option RecordDiff :=
  r.packages?.bind fun v => r.replacement?.bind (diffPackages r.id v)

theorem census_eq (h : r.packages? = some v) : r.census = Catalog.census v := by
  rw [census, h, Option.elim_some]

theorem census_canonicalize (h : r.packages? = some v) :
    r.canonicalize.census = Catalog.census (canonicalizePackages v) :=
  census_eq (packages?_canonicalize h)

end Record

/-- The elements of all packages of the records. -/
def censusOf (b : List Record) : List (String × Bool) := b.flatMap Record.census

/-- Canonicalization keeps the registry types. -/
theorem map_fst_census_canonicalizePackages (hv : v.WellFormed) :
    (census (canonicalizePackages v)).map (·.1) = (census v).map (·.1) := by
  cases v with
  | arr xs =>
    simp only [census, canonicalizePackages, Json.items, List.map_map]
    refine List.map_congr_left fun x hx => ?_
    have hx : x.WellFormed := Json.wellFormed_arr_iff.mp hv x hx
    simp only [Function.comp_apply, string?_registryType_canonicalizePackage hx]
  | _ => rfl

namespace MigrationReport

theorem legacyRecord_census (h : r.packages? = some v) :
    legacyRecord (Catalog.census v) = if r.HasLegacy then 1 else 0 := by
  have hany : (Catalog.census v).any (·.2) = true ↔ r.HasLegacy := by
    rw [List.any_eq_true, Record.HasLegacy, Record.census_eq h]
  rw [legacyRecord]
  simp only [hany]

/-! ### Planning -/

/-- The report says what the records tell. -/
structure Surveys (report : MigrationReport) (b : List Record) : Prop where
  scanned : report.scanned = b.length
  changed : report.changed = b.countP fun r => r.Changes
  legacyBefore : report.legacyBefore = b.countP fun r => r.HasLegacy
  legacyAfter : report.legacyAfter = (b.map Record.canonicalize).countP fun r => r.HasLegacy
  types : Tallies report.types (censusOf b) (censusOf (b.map Record.canonicalize))
  diffs : report.diffs = b.filterMap Record.diff?
  failures : report.failures = []

theorem surveys_empty (mode : MigrationMode) (strategy : MigrationStrategy)
    (cursor : Option String) : (empty mode strategy cursor).Surveys [] where
  scanned := rfl
  changed := rfl
  legacyBefore := rfl
  legacyAfter := rfl
  types := Tallies.nil
  diffs := rfl
  failures := rfl

/-- What was written, and where the run stopped, does not matter for it. -/
theorem Surveys.withProgress (h : report.Surveys b) (written : Nat) (cursor : Option String) :
    Surveys { report with written := written, lastCursor := cursor } b where
  scanned := h.scanned
  changed := h.changed
  legacyBefore := h.legacyBefore
  legacyAfter := h.legacyAfter
  types := h.types
  diffs := h.diffs
  failures := h.failures

section

variable (report : MigrationReport) (id : String) (v : Json) (replacement : Option Json)

theorem scanned_scan : (report.scan id v replacement).scanned = report.scanned + 1 := by
  cases replacement <;> rfl

theorem changed_scan : (report.scan id v replacement).changed =
    report.changed + if replacement.isSome then 1 else 0 := by
  cases replacement <;> rfl

theorem legacyBefore_scan : (report.scan id v replacement).legacyBefore =
    report.legacyBefore + legacyRecord (Catalog.census v) := by
  cases replacement <;> rfl

theorem legacyAfter_scan : (report.scan id v replacement).legacyAfter =
    report.legacyAfter + legacyRecord (Catalog.census (replacement.getD v)) := by
  cases replacement <;> rfl

theorem types_scan : (report.scan id v replacement).types =
    (Catalog.census (replacement.getD v)).foldl countAfter
      ((Catalog.census v).foldl countBefore report.types) := by
  cases replacement <;> rfl

theorem diffs_scan : (report.scan id v replacement).diffs =
    report.diffs ++ (replacement.bind (diffPackages id v)).toList := by
  cases replacement with
  | none => exact (List.append_nil _).symm
  | some new => rfl

theorem written_scan : (report.scan id v replacement).written = report.written := by
  cases replacement <;> rfl

theorem lastCursor_scan : (report.scan id v replacement).lastCursor = report.lastCursor := by
  cases replacement <;> rfl

end

/-- One more record is planned. -/
theorem Surveys.scan (h : report.Surveys b) (hwf : r.document.WellFormed)
    (hv : r.packages? = some v) : (report.scan r.id v r.replacement?).Surveys (b ++ [r]) where
  scanned := by rw [scanned_scan, h.scanned, List.length_append, List.length_singleton]
  changed := by
    have hchanges : r.replacement?.isSome = decide r.Changes := by
      rw [Bool.eq_iff_iff, Option.isSome_iff_exists, decide_eq_true_eq]
      exact Record.exists_replacement?_iff hwf
    rw [changed_scan, h.changed, hchanges, List.countP_append, List.countP_singleton]
  legacyBefore := by
    rw [legacyBefore_scan, h.legacyBefore, legacyRecord_census hv, List.countP_append,
      List.countP_singleton]
    simp only [decide_eq_true_eq]
  legacyAfter := by
    rw [legacyAfter_scan, h.legacyAfter, Record.getD_replacement? hwf hv,
      legacyRecord_census (Record.packages?_canonicalize hv), List.map_append, List.map_singleton,
      List.countP_append, List.countP_singleton]
    simp only [decide_eq_true_eq]
  types := by
    have hbefore : censusOf (b ++ [r]) = censusOf b ++ Catalog.census v := by
      simp [censusOf, Record.census_eq hv]
    have hafter : censusOf ((b ++ [r]).map Record.canonicalize) =
        censusOf (b.map Record.canonicalize) ++ Catalog.census (canonicalizePackages v) := by
      simp [censusOf, Record.census_canonicalize hv]
    rw [types_scan, Record.getD_replacement? hwf hv, hbefore, hafter]
    refine (h.types.foldl_countBefore _).foldl_countAfter fun e he => ?_
    have htype : e.1 ∈ (Catalog.census v).map (·.1) := by
      rw [← map_fst_census_canonicalizePackages (Record.wellFormed_of_packages? hwf hv)]
      exact List.mem_map_of_mem he
    rw [List.map_append]
    exact List.mem_append_right _ htype
  diffs := by
    have hdiff : r.diff? = r.replacement?.bind (diffPackages r.id v) := by
      rw [Record.diff?, hv, Option.bind_some]
    rw [diffs_scan, h.diffs, List.filterMap_append, ← hdiff]
    cases hr : r.diff? <;> simp [hr]
  failures := by rw [failures_scan, h.failures]

/-- More records are planned. -/
theorem Surveys.foldl_scanRecord {front : List Record} (h : report.Surveys front)
    (hwf : ∀ r ∈ b, r.document.WellFormed) (hpackages : ∀ r ∈ b, r.packages?.isSome) :
    (b.foldl scanRecord report).Surveys (front ++ b) := by
  induction b generalizing report front with
  | nil => simpa using h
  | cons r b ih =>
    obtain ⟨hr, hwf⟩ := List.forall_mem_cons.mp hwf
    obtain ⟨hsome, hpackages⟩ := List.forall_mem_cons.mp hpackages
    obtain ⟨v, hv⟩ := Option.isSome_iff_exists.mp hsome
    have hscan : scanRecord report r = report.scan r.id v r.replacement? := by
      rw [scanRecord, hv]
    rw [List.foldl_cons, hscan, List.append_cons]
    exact ih (h.scan hr hv) hwf hpackages

theorem written_foldl_scanRecord (b : List Record) (report : MigrationReport) :
    (b.foldl scanRecord report).written = report.written :=
  foldl_scanRecord_keeps written_scan b report

theorem lastCursor_foldl_scanRecord (b : List Record) (report : MigrationReport) :
    (b.foldl scanRecord report).lastCursor = report.lastCursor :=
  foldl_scanRecord_keeps lastCursor_scan b report

/-! ### Counting anew -/

/-- Counting the packages of records after the run changes two counts. -/
theorem foldl_tallyAfter_eq (b : List Record) (report : MigrationReport) :
    b.foldl (fun report r =>
      match r.packages? with
      | some packages => report.tallyAfter packages
      | none => report) report =
    { report with
      legacyAfter := report.legacyAfter + b.countP fun r => r.HasLegacy
      types := (censusOf b).foldl countAfter report.types } := by
  induction b generalizing report with
  | nil => rfl
  | cons r b ih =>
    rw [List.foldl_cons, ih]
    cases hv : r.packages? with
    | none =>
      have hcensus : r.census = [] := by rw [Record.census, hv, Option.elim_none]
      simp [censusOf, hcensus, Record.HasLegacy]
    | some v =>
      simp only [tallyAfter, legacyRecord_census hv, censusOf, List.flatMap_cons,
        List.foldl_append, Record.census_eq hv, List.countP_cons, decide_eq_true_eq]
      simp only [Nat.add_assoc, Nat.add_comm]

theorem recount_eq (report : MigrationReport) (b : List Record) : report.recount b =
    { report with
      legacyAfter := b.countP fun r => r.HasLegacy
      types := (censusOf b).foldl countAfter report.resetAfter.types } := by
  have hfold := foldl_tallyAfter_eq b report.resetAfter
  have hzero : report.resetAfter.legacyAfter = 0 := rfl
  rw [hzero, Nat.zero_add] at hfold
  exact hfold

/-- **Counting anew what is in the store after the run gives the same.** -/
theorem Surveys.recount (h : report.Surveys b) :
    (report.recount (b.map Record.canonicalize)).Surveys b := by
  have hreset : Tallies report.resetAfter.types (censusOf b) [] := h.types.resetAfter
  rw [recount_eq]
  exact {
    scanned := h.scanned
    changed := h.changed
    legacyBefore := h.legacyBefore
    legacyAfter := rfl
    types := by
      have htypes := hreset.foldl_countAfter h.types.types
      rwa [List.nil_append] at htypes
    diffs := h.diffs
    failures := h.failures }

theorem failures_recount (report : MigrationReport) (b : List Record) :
    (report.recount b).failures = report.failures := by
  rw [recount_eq]

theorem written_recount (report : MigrationReport) (b : List Record) :
    (report.recount b).written = report.written := by
  rw [recount_eq]

theorem lastCursor_recount (report : MigrationReport) (b : List Record) :
    (report.recount b).lastCursor = report.lastCursor := by
  rw [recount_eq]

/-! ### Reports that say the same -/

/-- Two reports say the same about the records, the failures and the last record. -/
structure Agrees (report report' : MigrationReport) : Prop where
  scanned : report.scanned = report'.scanned
  changed : report.changed = report'.changed
  legacyBefore : report.legacyBefore = report'.legacyBefore
  legacyAfter : report.legacyAfter = report'.legacyAfter
  types : report.types = report'.types
  diffs : report.diffs = report'.diffs
  failures : report.failures = report'.failures
  lastCursor : report.lastCursor = report'.lastCursor

/-- What a report says is told by the records. -/
theorem Surveys.agrees (h : report.Surveys b) (h' : report'.Surveys b)
    (hcursor : report.lastCursor = report'.lastCursor) : report.Agrees report' where
  scanned := h.scanned.trans h'.scanned.symm
  changed := h.changed.trans h'.changed.symm
  legacyBefore := h.legacyBefore.trans h'.legacyBefore.symm
  legacyAfter := h.legacyAfter.trans h'.legacyAfter.symm
  types := h.types.unique h'.types
  diffs := h.diffs.trans h'.diffs.symm
  failures := h.failures.trans h'.failures.symm
  lastCursor := hcursor

end MigrationReport

end Catalog
