import Catalog.Proofs.Migration.File
import Catalog.Proofs.Record.Window

/-!
# Records that keep to their documents

With one id in several records of a file, a commit may give a record the packages of another one.
This is the only way in which a live run can leave a document that is neither as it was nor
canonical.

## Main definitions

* `KeepsOwn` — the document of a record is as it was or canonical.
* `Receives` — the packages that a record gets in some run.
* `Misdirected` — a record would get the packages of another one.

## Main results

* `Misdirected.not_nodup` — this takes records that share an id.
* `Migration.forall₂_keepsOwn` — a transaction without misdirected packages.
* `Migration.exists_of_run_ok` — **a run without misdirected packages.**
-/

namespace Catalog

open Json (Members)

variable {s : FileStore} {K K' L : List Record} {r r' : Record} {m : Migration}
  {cursor : Option String} {limit : Option Nat}

/-- The record has its id still, and its document is as it was or canonical. -/
def KeepsOwn (r r' : Record) : Prop :=
  r'.id = r.id ∧ (r'.document = r.document ∨ r'.document = canonicalizeDocument r.document)

/-- In some run the first record with its id gets the packages that are planned for a record with
this id: no record with the id up to that one is malformed. -/
def Receives (records : List Record) (r : Record) (packages : Json) : Prop :=
  ∃ before q after, records.filter (fun p => p.id = r.id) = before ++ q :: after ∧
    (∀ p ∈ before, ¬ p.IsMalformed) ∧ q.replacement? = some packages ∧
    (before ++ [q]).head? = some r

/-- A record receives packages that make its document neither what it was nor canonical. -/
def Misdirected (records : List Record) : Prop :=
  ∃ (r : Record) (ms : Members) (packages : Json), Receives records r packages ∧
    r.document = .obj ms ∧ Json.obj (Members.set ms "packages" packages) ≠ r.document ∧
    Json.obj (Members.set ms "packages" packages) ≠ canonicalizeDocument r.document

/-- Its own packages make a record canonical. -/
theorem keepsOwn_replacement {ms : Members} {packages : Json}
    (hpackages : r.replacement? = some packages) (hdoc : r.document = .obj ms) :
    KeepsOwn r ⟨r.id, .obj (Members.set ms "packages" packages)⟩ := by
  obtain ⟨ms', hdoc', hcanonical⟩ := Record.canonicalize_of_replacement? hpackages
  obtain rfl := Json.obj.inj (hdoc.symm.trans hdoc')
  exact ⟨rfl, Or.inr hcanonical.symm⟩

/-- The record that receives packages and the one that these were planned for are two records with
one id. -/
theorem Misdirected.exists_cons (h : Misdirected L) :
    ∃ (r : Record) (between : List Record) (q : Record) (after : List Record) (ms : Members)
      (packages : Json), L.filter (fun p => p.id = q.id) = r :: between ++ q :: after ∧
        (∀ p ∈ r :: between, ¬ p.IsMalformed) ∧ q.replacement? = some packages ∧
        r.document = .obj ms ∧ Json.obj (Members.set ms "packages" packages) ≠ r.document ∧
        Json.obj (Members.set ms "packages" packages) ≠ canonicalizeDocument r.document := by
  obtain ⟨r, ms, packages, ⟨before, q, after, hsplit, hplain, hpackages, hfirst⟩, hdoc, hstored,
    hcanonical⟩ := h
  cases before with
  | nil =>
    -- the packages are its own
    obtain rfl := Option.some.inj hfirst
    exact absurd (keepsOwn_replacement hpackages hdoc).2 (not_or.mpr ⟨hstored, hcanonical⟩)
  | cons p between =>
    obtain rfl := Option.some.inj hfirst
    have hq : q ∈ L.filter fun p' => p'.id = p.id := by
      rw [hsplit]
      exact List.mem_append_right _ List.mem_cons_self
    have hid : q.id = p.id := by simpa using (List.mem_filter.mp hq).2
    rw [← hid] at hsplit
    exact ⟨p, between, q, after, ms, packages, hsplit, hplain, hpackages, hdoc, hstored, hcanonical⟩

/-- A record that receives other packages than its own is not the only one with its id. -/
theorem Misdirected.not_nodup (h : Misdirected L) : ¬ (L.map (·.id)).Nodup := by
  obtain ⟨r, between, q, after, -, -, hsplit, -⟩ := h.exists_cons
  intro hnodup
  have hids : ∀ p ∈ r :: between ++ q :: after, p.id = q.id := by
    intro p hp
    rw [← hsplit] at hp
    simpa using (List.mem_filter.mp hp).2
  have hgroup : ((r :: between ++ q :: after).map (·.id)).Nodup := by
    rw [← hsplit]
    exact hnodup.sublist (List.filter_sublist.map _)
  rw [List.cons_append, List.map_cons, List.nodup_cons] at hgroup
  refine hgroup.1 (List.mem_map.mpr ⟨q, by simp, ?_⟩)
  exact (hids r List.mem_cons_self).symm

namespace Migration

/-- The record keeps to its document, and it is as it was if the run has not got to it. -/
def KeepsOwnFrom (cursor : Option String) (r r' : Record) : Prop :=
  KeepsOwn r r' ∧ (isAfter cursor r.id = true → r' = r)

/-- Records that the run has not got to are found as they were. -/
theorem filter_eq_of_keepsOwnFrom (h : List.Forall₂ (KeepsOwnFrom cursor) L K)
    {f : Record → Bool} (hf : ∀ r, f r = true → isAfter cursor r.id = true) :
    K.filter f = L.filter f := by
  induction h with
  | nil => rfl
  | @cons r r' L K hr _ ih =>
    obtain ⟨⟨hid, -⟩, hsame⟩ := hr
    by_cases hafter : isAfter cursor r.id = true
    · rw [hsame hafter, List.filter_cons, List.filter_cons, ih]
    · rw [List.filter_cons_of_neg fun hr' => hafter (hid ▸ hf r' hr'),
        List.filter_cons_of_neg fun hr => hafter (hf r hr), ih]

theorem window_eq_of_keepsOwnFrom (h : List.Forall₂ (KeepsOwnFrom cursor) L K)
    (limit : Option Nat) : window K cursor limit = window L cursor limit := by
  have hall : window K cursor none = window L cursor none :=
    filter_eq_of_keepsOwnFrom h fun r hr => (Bool.and_eq_true_iff.mp hr).2
  cases limit with
  | none => exact hall
  | some n => rw [window_some, window_some, hall]

/-- One record in a transaction without misdirected packages. -/
theorem keepsOwn_of_rewrites (hL : ¬ Misdirected L) (h : List.Forall₂ (KeepsOwnFrom cursor) L K)
    {r'' : Record} (hr : KeepsOwnFrom cursor r r')
    (hrewrites : Rewrites K (window K cursor limit) r' r'') : KeepsOwn r r'' := by
  obtain ⟨hkeeps, hsame⟩ := hr
  cases hrewrites with
  | kept => exact hkeeps
  | @written q ms packages first document mem same replacement sound =>
    have hcursor : isAfter cursor r'.id = true := same ▸ isAfter_of_mem_window mem
    -- the run has not got to the record before, so the record is as it was
    obtain rfl : r' = r := hsame (hkeeps.1 ▸ hcursor)
    have hsameId : K.filter (fun p => p.id = r'.id) = L.filter fun p => p.id = r'.id := by
      refine filter_eq_of_keepsOwnFrom h fun p hp => ?_
      rwa [of_decide_eq_true hp]
    rw [hsameId] at first
    rw [window_eq_of_keepsOwnFrom h] at mem sound
    obtain ⟨before, after, hsplit, hbefore⟩ := exists_before_of_mem_window mem
    rw [same] at hsplit
    rw [hsplit] at first
    by_contra hneither
    have hfirst : (before ++ [q]).head? = some r' := by
      cases before <;> exact first
    -- the record receives packages that are not its own
    refine hL ⟨r', ms, packages, ⟨before, q, after, hsplit, ?_, replacement, hfirst⟩, document,
      fun hstored => hneither ⟨rfl, Or.inl hstored⟩,
      fun hcanonical => hneither ⟨rfl, Or.inr hcanonical⟩⟩
    exact fun p hp hmalformed => sound p (hbefore p hp hmalformed) hmalformed

theorem forall₂_trans {P Q R : Record → Record → Prop} (h : List.Forall₂ P L K)
    (h' : List.Forall₂ Q K K') (hR : ∀ {a b c}, P a b → Q b c → R a c) : List.Forall₂ R L K' := by
  induction h generalizing K' with
  | nil =>
    cases h'
    exact .nil
  | cons hab _ ih =>
    cases h' with
    | cons hbc h' => exact .cons (hR hab hbc) (ih h')

/-- A transaction without misdirected packages keeps to the documents of each record. -/
theorem forall₂_keepsOwn (hL : ¬ Misdirected L) (h : List.Forall₂ (KeepsOwnFrom cursor) L K)
    (hrewrites : List.Forall₂ (Rewrites K (window K cursor limit)) K K') :
    List.Forall₂ KeepsOwn L K' :=
  forall₂_trans h hrewrites fun hr hr' => keepsOwn_of_rewrites hL h hr hr'

/-- After a chunk the records that come after its last one are as they were. -/
theorem forall₂_keepsOwnFrom {last : Record} (hL : ¬ Misdirected L)
    (h : List.Forall₂ (KeepsOwnFrom cursor) L K) (hK : K.Pairwise fun a b => a.id ≤ b.id)
    (hlast : (window K cursor limit).getLast? = some last)
    (hrewrites : List.Forall₂ (Rewrites K (window K cursor limit)) K K') :
    List.Forall₂ (KeepsOwnFrom (some last.id)) L K' := by
  refine forall₂_trans h hrewrites fun hr hr' => ?_
  refine ⟨keepsOwn_of_rewrites hL h hr hr', fun hafter => ?_⟩
  -- no record of the chunk has the id of one that comes after it
  have hcursor := isAfter_of_mem_window (List.mem_of_getLast? hlast)
  rw [hr'.eq_of_forall_ne, hr.2 (isAfter_of_isAfter hcursor hafter)]
  intro q hq heq
  rw [hr.1.1] at heq
  have hle := le_of_mem_window hK hlast hq
  rw [heq] at hle
  exact String.not_lt.mpr hle (of_decide_eq_true hafter)

/-- A live run over a file without misdirected packages keeps to the documents of each record. -/
theorem exists_of_run_ok (hlive : m.mode = .live) (hs : s.Holds L) (hL : ¬ Misdirected L)
    {s' : FileStore} {events : List MigrationEvent} {report : MigrationReport}
    (hrun : m.run FileStore.store s = (s', events, .ok report)) :
    ∃ L', s'.load = .ok L' ∧ List.Forall₂ KeepsOwn L L' := by
  obtain ⟨st, hrecords, rfl, -⟩ := exists_runRecords_of_run s hrun
  have hself : List.Forall₂ (KeepsOwnFrom m.resumeFrom) L L :=
    List.forall₂_same.mpr fun r _ => ⟨⟨rfl, Or.inl rfl⟩, fun _ => rfl⟩
  generalize hst : (⟨s, .empty m.mode m.strategy m.resumeFrom, []⟩ : MigrationState FileStore) =
    start at hrecords
  have hstart : start.store.Holds L := by rwa [← hst]
  rw [runRecords] at hrecords
  split at hrecords
  · have hmem : ∀ q ∈ window L m.resumeFrom none, q ∈ L := fun q hq => (mem_window_iff.mp hq).1
    rw [runAtomic, FileStore.select_of_load hstart.load] at hrecords
    dsimp only at hrecords
    split at hrecords
    · cases hrecords
    · next planned report hplan =>
      obtain ⟨hsound, rfl, -⟩ := planAll_eq_ok hplan
      obtain ⟨L', hL', hrewrites⟩ := exists_persist hlive hstart hmem hsound
      split at hrecords
      · cases hrecords
      · next s' events written hpersist =>
        obtain rfl := (Prod.mk.inj hrecords).1
        rw [hpersist] at hL'
        exact ⟨L', hL'.load, forall₂_keepsOwn hL hself hrewrites⟩
  · cases hrecords
  · next size _ _ =>
    obtain ⟨st', cursor, L', hchunks, hholds, hkeeps⟩ := runChunks_invariant hlive
      (I := fun cursor K => List.Forall₂ (KeepsOwnFrom cursor) L K)
      (fun hK hsorted hlast hrewrites => forall₂_keepsOwnFrom hL hK hsorted hlast hrewrites)
      hstart hself (m.chunkBound FileStore.store start.store) 0
    rw [hchunks] at hrecords
    obtain rfl := (Prod.mk.inj hrecords).1
    exact ⟨L', hholds.load, hkeeps.imp fun r r' hr => hr.1⟩

end Migration

end Catalog
