import Catalog.Proofs.Canonical.Bounded
import Catalog.Proofs.Migration.Steps
import Catalog.Proofs.Record.File
import Catalog.Proofs.Record.Window

/-!
# Migrations of records in a file

A live migration over a record file. A commit gives what was planned under an id to the first record
with the id, while planning looks at every record of a window.

## Main definitions

* `FileStore.Holds` — the records in a file, which load again once they are written.
* `Migration.Rewrites` — what a transaction does to a record.

## Main results

* `Migration.exists_persist` — one transaction.
* `Migration.exists_runChunk` — one chunk.
* `Migration.runChunks_invariant` — **what each chunk preserves, a run preserves.**
-/

namespace Catalog

open Json (Bounded Members Number)

variable {s : FileStore} {K K' L b : List Record} {r r' : Record} {m : Migration}
  {cursor : Option String} {limit : Option Nat} {n : Nat}

/-- The file holds the records, and they load again once they are written. -/
structure FileStore.Holds (s : FileStore) (records : List Record) : Prop where
  load : s.load = .ok records
  storable : FileStore.Storable records

theorem FileStore.select_of_load (h : s.load = .ok K) (cursor : Option String)
    (limit : Option Nat) : FileStore.store.select s cursor limit = .ok (window K cursor limit) := by
  show (do return window (← s.load) cursor limit) = _
  rw [h]
  rfl

namespace Migration

/-! ### One transaction -/

/-- A record after a transaction that dealt with some of the records: it is as it was, or it is the
first one with its id and has the packages that were planned for one with this id. -/
inductive Rewrites (records b : List Record) : Record → Record → Prop
  | kept (r : Record) : Rewrites records b r r
  | written {r q : Record} {ms : Members} {packages : Json}
    (first : (records.filter fun p => p.id = r.id).head? = some r)
    (document : r.document = .obj ms) (mem : q ∈ b) (same : q.id = r.id)
    (replacement : q.replacement? = some packages) (sound : ∀ p ∈ b, ¬ p.IsMalformed) :
    Rewrites records b r ⟨r.id, .obj (Members.set ms "packages" packages)⟩

theorem Rewrites.id_eq (h : Rewrites K b r r') : r'.id = r.id := by
  cases h <;> rfl

/-- A record with another id than those dealt with is as it was. -/
theorem Rewrites.eq_of_forall_ne (h : Rewrites K b r r') (hne : ∀ q ∈ b, q.id ≠ r.id) : r' = r := by
  cases h with
  | kept => rfl
  | written first document mem same => exact absurd same (hne _ mem)

theorem forall₂_rewrites_self (K b : List Record) : List.Forall₂ (Rewrites K b) K K :=
  List.forall₂_same.mpr fun r _ => .kept r

theorem exists_of_mem_right {R : Record → Record → Prop} (h : List.Forall₂ R K K') (hr : r' ∈ K') :
    ∃ r ∈ K, R r r' := by
  induction h with
  | nil => cases hr
  | cons hhead _ ih =>
    rcases List.mem_cons.mp hr with rfl | hmem
    · exact ⟨_, List.mem_cons_self, hhead⟩
    · obtain ⟨r, hr, hrel⟩ := ih hmem
      exact ⟨r, List.mem_cons_of_mem _ hr, hrel⟩

theorem map_id_eq (h : List.Forall₂ (fun r r' : Record => r'.id = r.id) K K') :
    K'.map (·.id) = K.map (·.id) := by
  induction h with
  | nil => rfl
  | cons hr _ ih => rw [List.map_cons, List.map_cons, hr, ih]

/-- After a transaction the records can still be written and read again. -/
theorem storable_of_rewrites (hK : FileStore.Storable K) (hb : ∀ q ∈ b, q ∈ K)
    (h : List.Forall₂ (Rewrites K b) K K') : FileStore.Storable K' where
  sorted := by
    have hids := map_id_eq (h.imp fun r r' hr => hr.id_eq)
    have hsorted := hK.sorted
    rw [← List.pairwise_map] at hsorted ⊢
    rwa [hids]
  documents := by
    intro r' hr'
    obtain ⟨r, hr, hrewrites⟩ := exists_of_mem_right h hr'
    have hdocument := hK.documents r hr
    cases hrewrites with
    | kept => exact hdocument
    | written first document mem same replacement =>
      rw [document] at hdocument
      exact hdocument.set (Record.bounded_replacement (hK.documents _ (hb _ mem)) replacement)

/-- The writes of a transaction on a file are never refused. -/
theorem writeAll_file (s : FileStore) (pending : FileStore.Pending) (planned : List Planned) :
    writeAll FileStore.store s pending planned =
      .ok (planned.foldl (fun t p => t.insert p.id p.packages) pending) := by
  induction planned generalizing pending with
  | nil => rfl
  | cons p planned ih => exact ih (pending.insert p.id p.packages)

/-- What a transaction holds that wrote what was planned for some records. -/
def pendingOf (b : List Record) : FileStore.Pending :=
  (replacements b).foldl (fun t p => t.insert p.id p.packages) []

/-- A transaction on a file fails in its commit only. -/
theorem writeAndCommit_file (s : FileStore) (b : List Record) :
    writeAndCommit FileStore.store s (replacements b) =
      match FileStore.store.commit s (pendingOf b) with
      | (s', .ok ()) => (s', [], .ok (replacements b).length)
      | (s', .error e) => (s', [], .error e) := by
  have hstart : FileStore.store.start s = .ok [] := rfl
  have hwrites : writeAll FileStore.store s [] (replacements b) = .ok (pendingOf b) :=
    writeAll_file s [] (replacements b)
  rw [writeAndCommit, hstart]
  simp only [hwrites]
  obtain ⟨s', result⟩ := FileStore.store.commit s (pendingOf b)
  cases result <;> rfl

/-- A transaction holds what was planned, sorted by id. -/
theorem pendingOf_eq_ofList (b : List Record) :
    pendingOf b = Table.ofList ((replacements b).map fun p => (p.id, p.packages)) := by
  rw [pendingOf, Table.ofList, List.foldl_map]

theorem sorted_pendingOf (b : List Record) : (pendingOf b).Sorted := by
  rw [pendingOf_eq_ofList]
  exact Table.sorted_ofList _

/-- What is pending under an id was planned for a record with the id. -/
theorem exists_of_get?_pendingOf {id : String} {packages : Json}
    (h : (pendingOf b).get? id = some packages) :
    ∃ q ∈ b, q.id = id ∧ q.replacement? = some packages := by
  -- a table that is built from writes holds no others
  rw [pendingOf_eq_ofList] at h
  obtain ⟨p, hp, heq⟩ := List.mem_map.mp (Table.mem_of_mem_ofList (Table.mem_of_get?_eq_some h))
  obtain ⟨q, hq, hreplacement, hid⟩ := mem_replacements_iff.mp hp
  obtain ⟨rfl, rfl⟩ := Prod.mk.inj heq
  exact ⟨q, hq, hid.symm, hreplacement⟩

/-- What a commit of planned writes does to each record. -/
theorem rewrites_of_applyWrites (hsound : ∀ q ∈ b, ¬ q.IsMalformed) {left : FileStore.Pending}
    (h : FileStore.applyWrites K (pendingOf b) = .ok (K', left)) :
    List.Forall₂ (Rewrites K b) K K' := by
  refine FileStore.forall₂_applyWrites (fun r _ => .kept r) ?_ h
  intro front r back ms packages hsplit hfirst hdoc hget
  obtain ⟨q, hq, hid, hreplacement⟩ := exists_of_get?_pendingOf hget
  have hnone : front.filter (fun p => p.id = r.id) = [] := by
    rw [List.filter_eq_nil_iff]
    exact fun p hp => by simpa using hfirst p hp
  refine .written ?_ hdoc hq hid hreplacement hsound
  rw [hsplit, List.filter_append, hnone, List.nil_append, List.filter_cons_of_pos (by simp),
    List.head?_cons]

/-- A commit that finds every record it writes to. -/
theorem commit_of_applyWrites (hload : s.load = .ok K) {pending : FileStore.Pending}
    (hne : pending ≠ []) (h : FileStore.applyWrites K pending = .ok (K', [])) :
    FileStore.store.commit s pending = (s.save K', .ok ()) := by
  have hempty : ¬ pending.isEmpty = true := fun hnil => hne (List.isEmpty_iff.mp hnil)
  have hafter : s.afterCommit pending = .ok (s.save K') := by
    rw [FileStore.afterCommit, if_neg hempty]
    exact bind_eq_ok_iff.mpr ⟨K, hload, bind_eq_ok_iff.mpr ⟨_, h, rfl⟩⟩
  rw [FileStore.commit_eq, hafter]

/-- A live transaction whose commit finds every record it writes to. -/
theorem persist_of_applyWrites (hlive : m.mode = .live) (hload : s.load = .ok K)
    (hne : pendingOf b ≠ []) (h : FileStore.applyWrites K (pendingOf b) = .ok (K', [])) :
    m.persist FileStore.store s (replacements b) =
      (s.save K', [], .ok (replacements b).length) := by
  have hplanned : replacements b ≠ [] := by
    intro hnil
    rw [pendingOf, hnil] at hne
    exact hne rfl
  rw [persist_live _ _ hlive hplanned, writeAndCommit_file, commit_of_applyWrites hload hne h]

/-- A commit of what was planned for some of the records. -/
theorem exists_commit (hs : s.Holds K) (hb : ∀ q ∈ b, q ∈ K) (hsound : ∀ q ∈ b, ¬ q.IsMalformed) :
    ∃ K', (FileStore.store.commit s (pendingOf b)).1.Holds K' ∧
      List.Forall₂ (Rewrites K b) K K' := by
  have hself := forall₂_rewrites_self K b
  rw [FileStore.commit_eq]
  cases hcommit : s.afterCommit (pendingOf b) with
  | error e => exact ⟨K, hs, hself⟩
  | ok t =>
    rw [FileStore.afterCommit] at hcommit
    split at hcommit
    · obtain rfl := Except.ok.inj hcommit
      exact ⟨K, hs, hself⟩
    · obtain ⟨K₁, hload, hcommit⟩ := bind_eq_ok_iff.mp hcommit
      obtain rfl := Except.ok.inj (hs.load.symm.trans hload)
      obtain ⟨⟨K', left⟩, happly, hleft⟩ := bind_eq_ok_iff.mp hcommit
      have hrewrites := rewrites_of_applyWrites hsound happly
      have hK' := storable_of_rewrites hs.storable hb hrewrites
      cases left with
      | nil =>
        obtain rfl := Except.ok.inj hleft
        exact ⟨K', ⟨FileStore.load_save s hK', hK'⟩, hrewrites⟩
      -- a write that finds no record makes the commit fail
      | cons e left => cases hleft

/-- A live run writes what was planned for some of the records, or leaves the file as it is. -/
theorem exists_persist (hlive : m.mode = .live) (hs : s.Holds K) (hb : ∀ q ∈ b, q ∈ K)
    (hsound : ∀ q ∈ b, ¬ q.IsMalformed) :
    ∃ K', (m.persist FileStore.store s (replacements b)).1.Holds K' ∧
      List.Forall₂ (Rewrites K b) K K' := by
  by_cases hempty : replacements b = []
  · rw [hempty, persist_nil]
    exact ⟨K, hs, forall₂_rewrites_self K b⟩
  · obtain ⟨K', hK', hrewrites⟩ := exists_commit hs hb hsound
    refine ⟨K', ?_, hrewrites⟩
    rw [persist_live _ _ hlive hempty, writeAndCommit_file]
    split
    · next s' hcommit => rwa [hcommit] at hK'
    · next s' e hcommit => rwa [hcommit] at hK'

/-- A chunk of a live run, whether it succeeds or fails. -/
theorem exists_runChunk (hlive : m.mode = .live) {st : MigrationState FileStore}
    (hst : st.store.Holds K) (hb : ∀ q ∈ b, q ∈ K) (chunk : Nat) (firstId lastId : String) :
    ∃ K', (m.runChunk FileStore.store chunk firstId lastId b st).store.Holds K' ∧
      List.Forall₂ (Rewrites K b) K K' := by
  rw [runChunk]
  cases hplan : planAll b st.report with
  | error e => exact ⟨K, hst, forall₂_rewrites_self K b⟩
  | ok plan =>
    obtain ⟨planned, report⟩ := plan
    obtain ⟨hsound, rfl, -⟩ := planAll_eq_ok hplan
    obtain ⟨K', hK', hrewrites⟩ := exists_persist hlive hst hb hsound
    refine ⟨K', ?_, hrewrites⟩
    dsimp only
    split
    · next s' events e hpersist => rwa [hpersist] at hK'
    · next s' events written hpersist => rwa [hpersist] at hK'

/-! ### Whole runs -/

/-- What each chunk preserves, the run in chunks preserves. -/
theorem runChunks_invariant (hlive : m.mode = .live) {I : Option String → List Record → Prop}
    (hstep : ∀ {cursor K K' last}, I cursor K → K.Pairwise (fun a b => a.id ≤ b.id) →
      (window K cursor (some n)).getLast? = some last →
      List.Forall₂ (Rewrites K (window K cursor (some n))) K K' → I (some last.id) K')
    {st : MigrationState FileStore} (hst : st.store.Holds K) (hI : I cursor K) (fuel chunk : Nat) :
    ∃ st' cursor' K', m.runChunks FileStore.store n fuel chunk cursor st = (st', .ok ()) ∧
      st'.store.Holds K' ∧ I cursor' K' := by
  -- the induction is on the bound: a chunk hands its cursor and records to the next one
  induction fuel generalizing st cursor chunk K with
  | zero => exact ⟨st, cursor, K, rfl, hst, hI⟩
  | succ fuel ih =>
    have hselect := FileStore.select_of_load hst.load cursor (some n)
    cases hwindow : window K cursor (some n) with
    | nil =>
      rw [hwindow] at hselect
      exact ⟨st, cursor, K, runChunks_of_nil hselect fuel chunk, hst, hI⟩
    | cons _ _ =>
      have hne : window K cursor (some n) ≠ [] := by
        rw [hwindow]
        exact List.cons_ne_nil _ _
      obtain ⟨first, last, hfirst, hlast⟩ := exists_head?_getLast? hne
      have hmem : ∀ q ∈ window K cursor (some n), q ∈ K := by
        intro q hq
        exact (mem_window_iff.mp (List.mem_of_mem_take hq)).1
      obtain ⟨K', hK', hrewrites⟩ := exists_runChunk hlive hst hmem chunk first.id last.id
      have hI' := hstep hI hst.storable.sorted hlast hrewrites
      rw [runChunks_of_ne_nil hselect hfirst hlast]
      split
      · exact ⟨_, _, K', rfl, hK', hI'⟩
      · exact ih hK' hI' (chunk + 1)

end Migration

end Catalog
