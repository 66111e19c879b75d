import Catalog.Proofs.Json.ReadsInteger
import Catalog.Proofs.Json.ReadsLayout
import Catalog.Proofs.Table
import Catalog.Record.File

/-!
# Laws of records in a file

Whatever records a file holds, they are sorted by id and their documents are bounded. Records like
these, once written, load again as they are, provided that their doubles read back from their texts.
A commit gives each of its writes to the first record with the id.

## Main definitions

* `FileStore.Storable` — records that load again once they are written.

## Main results

* `FileStore.load_save` — **storable records load again.**
* `FileStore.bounded_of_load`, `FileStore.sorted_of_load` — what a file holds.
* `FileStore.forall₂_applyWrites` — what a commit does to each record.
-/

namespace Catalog

open Json (Bounded Layout Members Number)
open Json.Reader (Reads EndsNumber Yields)

namespace Record

variable {r : Record} {depth : Nat}

/-- The document of a record reads back. -/
theorem reads_toJson (h : Bounded Number.ReadsBack depth r.document) (level : Nat) :
    Reads EndsNumber (layout.read (depth + 1)) (Json.Reader.prettyText level r.toJson)
      r.toJson := by
  have hkeys : ["id", "document"].Nodup := by decide
  refine Layout.reads_closedRecord hkeys rfl ?_
  rw [List.forall_mem_cons, List.forall_mem_singleton]
  exact ⟨⟨_, rfl, Layout.reads_string _ _ _⟩, ⟨_, rfl, Layout.reads_any h _⟩⟩

/-- The document of a record that was read. -/
theorem yields_layout (depth : Nat) :
    Yields (fun v => Bounded Number.InRange depth (ofDocument v).document)
      (layout.read (depth + 1)) := by
  have hfields : ∀ f ∈ knownFields,
      Yields (Bounded Number.InRange depth) (f.layout.read depth) := by
    rw [knownFields, List.forall_mem_cons, List.forall_mem_singleton]
    refine ⟨(Layout.yields_string depth).mono ?_, Json.Reader.yields_value depth⟩
    rintro v ⟨s, rfl⟩
    exact .str s
  refine (Layout.yields_closedRecord hfields).mono fun v hv => ?_
  rw [ofDocument]
  cases hdoc : (Layout.recordMembers knownFields v).value? "document" with
  | none => exact .null
  | some d => exact hv _ (Json.Members.mem_of_value?_eq_some hdoc)

end Record

namespace FileStore

variable {s : FileStore} {records : List Record}

/-- How deep the containers of a document in a file may be nested: the file and the record take two
of those that a reader allows. -/
def documentDepth : Nat := 125

/-- The records are sorted by id, and their documents can be written and read again. -/
structure Storable (records : List Record) : Prop where
  sorted : records.Pairwise fun a b => a.id ≤ b.id
  documents : ∀ r ∈ records, Bounded Number.ReadsBack documentDepth r.document

theorem sortById_eq_self (h : records.Pairwise fun a b => a.id ≤ b.id) :
    sortById records = records := by
  rw [sortById, List.mergeSort_of_pairwise]
  exact h.imp fun hle => decide_eq_true hle

/-- The records that a text describes, in the order of their ids. -/
theorem load_eq_sortById {path text : String}
    (htext : (Layout.list Record.layout).decodeText text =
      .ok (.arr (records.map Record.toJson))) :
    load ⟨path, some text⟩ = .ok (sortById records) := by
  have hitems : (records.map Record.toJson).map Record.ofDocument = records := by
    rw [List.map_map]
    exact List.map_id' records
  rw [load]
  simp only [htext, Json.items, hitems]

/-- The records that a text describes, if they are sorted. -/
theorem load_of_decodeText {path text : String}
    (htext : (Layout.list Record.layout).decodeText text = .ok (.arr (records.map Record.toJson)))
    (hsorted : records.Pairwise fun a b => a.id ≤ b.id) :
    load ⟨path, some text⟩ = .ok records := by
  rw [load_eq_sortById htext, sortById_eq_self hsorted]

/-- Records that were written are read again, in the order of their ids. -/
theorem load_ofRecords_eq_sortById (path : String)
    (h : ∀ r ∈ records, Bounded Number.ReadsBack documentDepth r.document) :
    (ofRecords path records).load = .ok (sortById records) := by
  have hreads : Reads EndsNumber ((Layout.list Record.layout).read Json.Reader.maxDepth)
      (Json.Reader.prettyText 0 (.arr (records.map Record.toJson)))
      (.arr (records.map Record.toJson)) := by
    refine Layout.reads_list fun x hx => ?_
    obtain ⟨r, hr, rfl⟩ := List.mem_map.mp hx
    -- the document of a record starts with a brace
    refine ⟨?_, Record.reads_toJson (h r hr) _⟩
    rw [Record.toJson, Json.Reader.prettyText_obj_cons]
    exact Json.Reader.startsItem_cons (by decide) (by decide)
  refine load_eq_sortById ?_
  rw [Layout.decodeText, Layout.decodeBytes, Text.toUTF8_toList]
  exact hreads.readAll Json.Reader.endsNumber_nil

/-- **Storable records load again.** -/
theorem load_ofRecords (path : String) (h : Storable records) :
    (ofRecords path records).load = .ok records := by
  rw [load_ofRecords_eq_sortById path h.documents, sortById_eq_self h.sorted]

theorem load_save (s : FileStore) (h : Storable records) : (s.save records).load = .ok records :=
  load_ofRecords s.path h

theorem exists_of_load (h : s.load = .ok records) : ∃ text v,
    (Layout.list Record.layout).decodeText text = .ok v ∧
      records = sortById (v.items.map Record.ofDocument) := by
  rw [load] at h
  split at h
  · cases h
  · next text _ =>
    split at h
    · next v hv => exact ⟨text, v, hv, (Except.ok.inj h).symm⟩
    · cases h

theorem pairwise_sortById (records : List Record) :
    (sortById records).Pairwise fun a b => a.id ≤ b.id := by
  have hsorted : (sortById records).Pairwise fun a b => decide (a.id ≤ b.id) = true := by
    refine List.pairwise_mergeSort ?_ ?_ records
    · intro a b c hab hbc
      rw [decide_eq_true_eq] at hab hbc ⊢
      exact String.le_trans hab hbc
    · intro a b
      rw [Bool.or_eq_true, decide_eq_true_eq, decide_eq_true_eq]
      exact String.le_total a.id b.id
  exact hsorted.imp fun hle => of_decide_eq_true hle

/-- The records that a file holds are sorted by id. -/
theorem sorted_of_load (h : s.load = .ok records) : records.Pairwise fun a b => a.id ≤ b.id := by
  obtain ⟨text, v, -, rfl⟩ := exists_of_load h
  exact pairwise_sortById _

/-- The documents that a file holds are bounded. -/
theorem bounded_of_load (h : s.load = .ok records) :
    ∀ r ∈ records, Bounded Number.InRange documentDepth r.document := by
  obtain ⟨text, v, hdecode, rfl⟩ := exists_of_load h
  intro r hr
  obtain ⟨x, hx, rfl⟩ := List.mem_map.mp (List.mem_mergeSort.mp hr)
  obtain ⟨c, hrun, -⟩ := Json.readAll_eq_ok_iff.mp hdecode
  exact Layout.yields_list (Record.yields_layout documentDepth) _ _ _ hrun x hx

/-- What a file holds can be written and read again if its doubles read back. -/
theorem storable_of_load (h : s.load = .ok records)
    (hdoubles : ∀ r ∈ records, ∀ x, Number.float x ∈ r.document.numbers →
      (Number.float x).ReadsBack) : Storable records where
  sorted := sorted_of_load h
  documents := fun r hr => (bounded_of_load h r hr).readsBack (hdoubles r hr)

/-! ### Commits -/

variable {pending left : Pending} {records' : List Record}

/-- Leaving out the write under an id. -/
theorem get?_filter_ne (pending : Pending) (id key : String) :
    Table.get? (pending.filter fun (k, _) => k ≠ id) key =
      if key = id then none else pending.get? key := by
  induction pending with
  | nil => simp [Table.get?]
  | cons e pending ih =>
    obtain ⟨k, packages⟩ := e
    by_cases hk : k = id
    · rw [List.filter_cons_of_neg (by simpa using hk), ih, Table.get?]
      by_cases hkey : key = id
      · rw [if_pos hkey, if_pos hkey]
      · rw [if_neg hkey, if_neg hkey, if_neg (hk ▸ Ne.symm hkey)]
    · rw [List.filter_cons_of_pos (by simpa using hk), Table.get?, Table.get?, ih]
      by_cases hkey : k = key
      · rw [if_pos hkey, if_neg (hkey ▸ hk), if_pos hkey]
      · rw [if_neg hkey, if_neg hkey]

/-- What a commit does to each record: it leaves it as it is, or it gives the packages that were
written under its id to the first record with the id. -/
theorem forall₂_applyWrites {R : Record → Record → Prop} (hkeep : ∀ r ∈ records, R r r)
    (hwrite : ∀ front r back ms packages, records = front ++ r :: back →
      (∀ q ∈ front, q.id ≠ r.id) → r.document = .obj ms → pending.get? r.id = some packages →
      R r ⟨r.id, .obj (Members.set ms "packages" packages)⟩)
    (h : applyWrites records pending = .ok (records', left)) : List.Forall₂ R records records' := by
  induction records generalizing pending records' left with
  | nil =>
    obtain ⟨rfl, -⟩ := Prod.mk.inj (Except.ok.inj h)
    exact .nil
  | cons r records ih =>
    obtain ⟨hr, hkeep⟩ := List.forall_mem_cons.mp hkeep
    rw [applyWrites] at h
    split at h
    -- nothing was written under the id, so no write for a later record belongs to this one
    · next hnone =>
      obtain ⟨⟨records'', left'⟩, hrest, hpure⟩ := bind_eq_ok_iff.mp h
      obtain ⟨rfl, -⟩ := Prod.mk.inj (Except.ok.inj hpure)
      refine .cons hr (ih hkeep ?_ hrest)
      intro front q back ms packages hsplit hfirst hdoc hget
      refine hwrite (r :: front) q back ms packages (by rw [hsplit]; rfl) ?_ hdoc hget
      rw [List.forall_mem_cons]
      refine ⟨fun heq => ?_, hfirst⟩
      rw [← heq, hnone] at hget
      cases hget
    · next packages hsome =>
      split at h
      · next ms hdoc =>
        obtain ⟨⟨records'', left'⟩, hrest, hpure⟩ := bind_eq_ok_iff.mp h
        obtain ⟨rfl, -⟩ := Prod.mk.inj (Except.ok.inj hpure)
        have hfirst := hwrite [] r records ms packages rfl (List.forall_mem_nil _) hdoc hsome
        refine .cons hfirst (ih hkeep ?_ hrest)
        intro front q back ms packages hsplit hfirst hdoc hget
        -- the write is used up, so later records with the id get nothing
        rw [get?_filter_ne] at hget
        split at hget
        · cases hget
        · next hne =>
          refine hwrite (r :: front) q back ms packages (by rw [hsplit]; rfl) ?_ hdoc hget
          rw [List.forall_mem_cons]
          exact ⟨Ne.symm hne, hfirst⟩
      · cases h

/-- A commit of one write, which goes to the first record with the id. -/
theorem applyWrites_singleton {front back : List Record} {r : Record} {ms : Members}
    {packages : Json} (hfirst : ∀ q ∈ front, q.id ≠ r.id) (hdoc : r.document = .obj ms) :
    applyWrites (front ++ r :: back) [(r.id, packages)] =
      .ok (front ++ ⟨r.id, .obj (Members.set ms "packages" packages)⟩ :: back, []) := by
  have hback : ∀ records : List Record, applyWrites records [] = .ok (records, []) := by
    intro records
    induction records with
    | nil => rfl
    | cons q records ih =>
      rw [applyWrites, Table.get?]
      exact bind_eq_ok_iff.mpr ⟨_, ih, rfl⟩
  have hfound : Table.get? [(r.id, packages)] r.id = some packages := if_pos rfl
  induction front with
  | nil =>
    have hempty : [(r.id, packages)].filter (fun (k, _) => k ≠ r.id) = [] := by simp
    rw [List.nil_append, List.nil_append, applyWrites, hfound]
    simp only [hdoc]
    rw [hempty, hback]
    rfl
  | cons q front ih =>
    obtain ⟨hq, hfirst⟩ := List.forall_mem_cons.mp hfirst
    have hother : Table.get? [(r.id, packages)] q.id = none := by
      rw [Table.get?, if_neg (Ne.symm hq), Table.get?]
    rw [List.cons_append, applyWrites, hother]
    exact bind_eq_ok_iff.mpr ⟨_, ih hfirst, rfl⟩

/-- A commit leaves the file as it is when it fails. -/
theorem commit_eq (s : FileStore) (pending : Pending) :
    store.commit s pending = match s.afterCommit pending with
      | .ok t => (t, .ok ())
      | .error e => (s, .error e) := rfl

end FileStore

end Catalog
